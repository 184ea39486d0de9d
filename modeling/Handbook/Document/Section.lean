import Handbook.Document.Label
import Handbook.Text.Lines
import Handbook.Value.Json

/-!
Sections of a document that depend on the answers as a whole, and what stands in for a part that no
provider has contributed. A section without anything to say is empty.
-/

namespace Handbook.Document

open Text

/-! What stands in for a missing contribution. -/

/-- A file tree with a single source file. -/
def plainFileTree (answers : Answers) : String :=
  lines ["src/", "└── index." ++ Label.fileExtension answers.language answers.customLanguage]

/-- The strategy where no framework has one of its own. -/
def plainStrategy : String :=
  lines ["- No testing framework configured yet", "- Consider adding tests as the project grows"]

def strategies : Table String :=
  [("jest",
      lines ["- Write unit tests for all utilities and hooks",
        "- Component tests with React Testing Library", "- Mock external dependencies",
        "- Aim for 80% code coverage"]),
    ("vitest",
      lines ["- Use Vitest for fast unit testing", "- Component tests with React Testing Library",
        "- Integration tests for API routes", "- Run tests in watch mode during development"]),
    ("playwright",
      lines ["- E2E tests for critical user flows", "- Test across multiple browsers",
        "- Visual regression testing", "- API testing capabilities"]),
    ("none", plainStrategy)]

def testingStrategy (framework : Option String) : String :=
  (strategies.get? ((Label.given framework).getD "none")).getD plainStrategy

def guidelines : Table String :=
  [("tailwind",
      lines ["- Use Tailwind utility classes", "- Create reusable component classes with @apply",
        "- Mobile-first responsive design", "- Use CSS variables for theming"]),
    ("styled-components",
      lines ["- Create styled components for reusability",
        "- Use theme provider for consistent styling",
        "- Keep style definitions next to the components that use them"]),
    ("css-modules",
      lines ["- One CSS module per component", "- Use camelCase for class names",
        "- Compose styles for variants"])]

def uiGuidelines (styling : Option String) : String :=
  (((Label.given styling).bind guidelines.get?)).getD ""

/-! Sections. -/

/-- What the document says about the command-line tool for pull requests and issues. -/
def githubCliSection (available : Bool) : String :=
  if available then
    lines ["## ✅ GitHub CLI Detected", "", "GitHub CLI is installed. The assistant can use it for:",
      "- Creating and managing pull requests", "- Reading and creating issues",
      "- Code review automation", "", "No additional setup needed!"]
  else
    lines ["## 🚨 GitHub CLI Recommended", "",
      "Install GitHub CLI so the assistant can work with pull requests and issues:", "", "```bash",
      "# macOS", "brew install gh", "", "# Ubuntu/Debian", "sudo apt install gh", "", "# Windows",
      "winget install --id GitHub.cli", "```", "", "After installation: `gh auth login`"]

/-- How a tool server is started, with the settings that it takes from the environment. -/
def toolServer (package : String) (settings : Table String) : Value :=
  .record ([("command", .str "npx"), ("args", .strings [package])]
    ++ if settings.isEmpty then [] else [("env", .ofTexts settings)])

def toolServers : Table Value :=
  [("puppeteer", toolServer "@mcp-server/puppeteer" []),
    ("sentry", toolServer "@mcp-server/sentry" [("SENTRY_AUTH_TOKEN", "your-sentry-token")]),
    ("database", toolServer "@mcp-server/database" [("DATABASE_URL", "your-database-url")])]

/-- How the chosen tool servers are set up, each of them once. -/
def mcpSection (servers : List String) : String :=
  let selected : Table Value :=
    Table.ofEntries (servers.filterMap fun name =>
      (toolServers.get? name).map fun server => (name, server))
  if servers.contains "none" || selected.isEmpty then ""
  else
    lines ["## 🔧 MCP Server Configuration", "", "Create `.mcp.json` in your project root:", "",
      "```json", (Value.record [("mcpServers", .record selected)]).json (some 2), "```", "",
      "These MCP servers will be available to the assistant."]

/-- The tools that the assistant may use without asking. -/
def allowedTools (answers : Answers) : List String :=
  let when (condition : Bool) (tools : List String) : List String := if condition then tools else []
  let spoken (name : String) : Bool := answers.language = some name
  let served (name : String) : Bool :=
    !answers.mcpServers.contains "none" && answers.mcpServers.contains name
  ["Edit", "Write"]
    ++ when (spoken "TypeScript" || spoken "JavaScript") ["Bash(npm:*)", "Bash(yarn:*)", "Bash(pnpm:*)"]
    ++ when (spoken "Python") ["Bash(pip:*)", "Bash(python:*)"]
    ++ when (answers.testing != some "none") ["Bash(test:*)", "Bash(jest:*)", "Bash(pytest:*)"]
    ++ ["Bash(git:*)"]
    ++ when (served "puppeteer") ["mcp__puppeteer__*"]
    ++ when (served "sentry") ["mcp__sentry__*"]

/-- The tools that the assistant may use, as a list and as a setting. -/
def toolAllowlistSection (answers : Answers) : String :=
  let tools := allowedTools answers
  lines (["## 🛠️ Recommended Tool Allowlist", "",
      "Consider allowing these tools for a smoother workflow:", "", "```bash"]
    ++ tools.map ("- " ++ ·)
    ++ ["```", "", "Or add them to your settings file:", "```json",
      (Value.record [("allowedTools", .strings tools)]).json none, "```"])

/-- Ways of working that have a section. -/
def workflows : Table String :=
  [("explore-plan-code",
      lines ["## 🔄 Recommended Workflow: Explore → Plan → Code", "",
        "1. **Explore**: read the relevant files before writing any code",
        "2. **Plan**: write down a detailed plan and save it for reference",
        "3. **Code**: implement the plan, checking each step as it lands",
        "4. **Commit**: descriptive commit messages and context-rich pull requests"]),
    ("tdd",
      lines ["## 🧪 Test-Driven Development Workflow", "",
        "1. **Write tests first** from the expected behavior; confirm they fail",
        "2. **Commit the tests** before any implementation",
        "3. **Implement** until the tests pass, without modifying them",
        "4. **Verify and commit** the working code"])]

def workflowSection (workflow : Option String) : String := (workflow.bind workflows.get?).getD ""

def teamCollaborationSection (features : List String) : String :=
  if features.isEmpty || features.contains "none" then ""
  else
    let when (feature : String) (text : List String) : List String :=
      if features.contains feature then text else []
    lines (["## 👥 Team Collaboration Setup"]
      ++ when "shared-mcp"
        ["", "### Shared MCP Configuration",
          "- Check `.mcp.json` into git for team-wide MCP server access",
          "- New team members need no individual setup"]
      ++ when "team-commands"
        ["", "### Team Slash Commands", "Create shared commands in `.commands/`:",
          "- `fix-github-issue.md` - Automated issue resolution",
          "- `deploy-staging.md` - Standardized deployment process"])

end Handbook.Document
