import Handbook.Answers.Shape

/-!
The questions that are asked about a project. Every answer has two keys, one in camel case and one with
underscores; a one-word key is the same in both spellings.
-/

namespace Handbook

/-- The package managers that documents are written for. -/
def packageManagers : List String := ["npm", "yarn", "pnpm", "bun"]

/-- A question about a project, in the order in which answers are listed. -/
inductive Field where
  | projectType
  | stack
  | customStack
  | language
  | customLanguage
  | packageManager
  | database
  | customDatabase
  | authentication
  | customAuthentication
  | styling
  | componentLibrary
  | testing
  | deployment
  | codeStyle
  | assistantBehavior
  | gitCommitStyle
  | branchStrategy
  | wantAdvancedOptions
  | mcpServers
  | preferredWorkflow
  | teamFeatures
  | saveProfile
  | profileName
  | projectRoot
  deriving Repr, DecidableEq

namespace Field

def all : List Field :=
  [projectType, stack, customStack, language, customLanguage, packageManager, database, customDatabase,
    authentication, customAuthentication, styling, componentLibrary, testing, deployment, codeStyle,
    assistantBehavior, gitCommitStyle, branchStrategy, wantAdvancedOptions, mcpServers,
    preferredWorkflow, teamFeatures, saveProfile, profileName, projectRoot]

theorem mem_all (field : Field) : field ∈ all := by
  cases field <;> decide

def camelKey : Field → String
  | projectType => "projectType"
  | stack => "stack"
  | customStack => "customStack"
  | language => "language"
  | customLanguage => "customLanguage"
  | packageManager => "packageManager"
  | database => "database"
  | customDatabase => "customDatabase"
  | authentication => "authentication"
  | customAuthentication => "customAuthentication"
  | styling => "styling"
  | componentLibrary => "componentLibrary"
  | testing => "testing"
  | deployment => "deployment"
  | codeStyle => "codeStyle"
  | assistantBehavior => "assistantBehavior"
  | gitCommitStyle => "gitCommitStyle"
  | branchStrategy => "branchStrategy"
  | wantAdvancedOptions => "wantAdvancedOptions"
  | mcpServers => "mcpServers"
  | preferredWorkflow => "preferredWorkflow"
  | teamFeatures => "teamFeatures"
  | saveProfile => "saveProfile"
  | profileName => "profileName"
  | projectRoot => "projectRoot"

def snakeKey : Field → String
  | projectType => "project_type"
  | stack => "stack"
  | customStack => "custom_stack"
  | language => "language"
  | customLanguage => "custom_language"
  | packageManager => "package_manager"
  | database => "database"
  | customDatabase => "custom_database"
  | authentication => "authentication"
  | customAuthentication => "custom_authentication"
  | styling => "styling"
  | componentLibrary => "component_library"
  | testing => "testing"
  | deployment => "deployment"
  | codeStyle => "code_style"
  | assistantBehavior => "assistant_behavior"
  | gitCommitStyle => "git_commit_style"
  | branchStrategy => "branch_strategy"
  | wantAdvancedOptions => "want_advanced_options"
  | mcpServers => "mcp_servers"
  | preferredWorkflow => "preferred_workflow"
  | teamFeatures => "team_features"
  | saveProfile => "save_profile"
  | profileName => "profile_name"
  | projectRoot => "project_root"

@[reducible]
def shape : Field → Shape
  | projectType =>
    .choice ["fullstack", "backend", "frontend", "cli", "mobile", "datascience", "library"]
  | language =>
    .choice ["TypeScript", "JavaScript", "Python", "Go", "Java", "Ruby", "Rust", "C++", "C#", "Other"]
  | packageManager => .choice packageManagers
  | database =>
    .choice ["postgresql", "mysql", "mongodb", "sqlite", "supabase", "firebase", "other", "none"]
  | authentication => .choice ["nextauth", "clerk", "auth0", "supabase-auth", "jwt", "other", "none"]
  | styling =>
    .choice ["tailwind", "css-modules", "styled-components", "vanilla-css", "scss", "emotion"]
  | componentLibrary => .choice ["shadcn", "mantine", "mui", "antd", "chakra", "none"]
  | testing =>
    .choice ["jest", "vitest", "playwright", "cypress", "pytest", "unittest", "go-test", "none"]
  | deployment =>
    .choice ["vercel", "netlify", "aws", "gcp", "fly", "railway", "docker", "unsure"]
  | codeStyle =>
    .choices ["ts-strict", "functional", "self-documenting", "comments", "early-returns",
      "error-handling"]
  | assistantBehavior => .choices ["explain", "ask-first", "tdd", "fast", "patterns"]
  | gitCommitStyle => .choice ["conventional", "simple", "detailed"]
  | branchStrategy => .choice ["feature-slash", "feature-dash", "username"]
  | mcpServers => .choices ["puppeteer", "sentry", "database", "filesystem", "git", "none"]
  | preferredWorkflow =>
    .choice ["explore-plan-code", "tdd", "screenshot-ui", "safe-yolo", "multi-assistant", "standard"]
  | teamFeatures =>
    .choices ["shared-mcp", "team-commands", "team-allowlist", "review-automation", "issue-triage",
      "none"]
  | wantAdvancedOptions | saveProfile => .flag
  | stack | customStack | customLanguage | customDatabase | customAuthentication | profileName
  | projectRoot => .text

def isList (field : Field) : Bool :=
  match field.shape with
  | .choices _ => true
  | _ => false

end Field

end Handbook
