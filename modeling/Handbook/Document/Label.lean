import Handbook.Answers.Basic

/-!
Labels: what answers are called in a document. An answer without a label of its own stands for itself, and
one that is missing has an empty label.
-/

namespace Handbook.Document

namespace Label

def projectTypes : Table String :=
  [("fullstack", "Full-Stack Web App"), ("backend", "Backend API"), ("frontend", "Frontend"),
    ("cli", "CLI Tool"), ("mobile", "Mobile App"), ("datascience", "Data Science/ML"),
    ("library", "Library/Package")]

def stackNames : Table String :=
  [("nextjs-app", "Next.js 14 (App Router)"), ("nextjs-pages", "Next.js 14 (Pages Router)"),
    ("remix", "Remix"), ("t3", "T3 Stack"), ("mern", "MERN Stack"), ("mean", "MEAN Stack"),
    ("express", "Node.js + Express"), ("fastify", "Node.js + Fastify"), ("fastapi", "Python + FastAPI"),
    ("django", "Python + Django"), ("gin", "Go + Gin"), ("rails", "Ruby on Rails"), ("react", "React"),
    ("vue", "Vue.js"), ("svelte", "Svelte"), ("angular", "Angular"), ("vanilla", "Vanilla JS")]

def databases : Table String :=
  [("postgresql", "PostgreSQL"), ("mysql", "MySQL"), ("mongodb", "MongoDB"), ("sqlite", "SQLite"),
    ("supabase", "Supabase"), ("firebase", "Firebase"), ("none", "None")]

def deployments : Table String :=
  [("vercel", "Vercel"), ("netlify", "Netlify"), ("aws", "AWS"), ("gcp", "Google Cloud"), ("fly", "Fly.io"),
    ("railway", "Railway"), ("docker", "Docker/Self-hosted"), ("unsure", "Not decided yet")]

def testingFrameworks : Table String :=
  [("jest", "Jest"), ("vitest", "Vitest"), ("playwright", "Playwright (E2E)"), ("cypress", "Cypress (E2E)"),
    ("pytest", "Pytest"), ("unittest", "Python unittest"), ("go-test", "Go testing"),
    ("none", "None configured yet")]

def stylings : Table String :=
  [("tailwind", "Tailwind CSS"), ("css-modules", "CSS Modules"), ("styled-components", "Styled Components"),
    ("vanilla-css", "Vanilla CSS"), ("scss", "Sass/SCSS"), ("emotion", "Emotion")]

def componentLibraries : Table String :=
  [("shadcn", "shadcn/ui"), ("mantine", "Mantine"), ("mui", "Material UI"), ("antd", "Ant Design"),
    ("chakra", "Chakra UI"), ("none", "None - custom components")]

def codeStyles : Table String :=
  [("ts-strict", "TypeScript strict mode enabled"),
    ("functional", "Prefer functional programming patterns"),
    ("self-documenting", "Write self-documenting code"), ("comments", "Include detailed comments"),
    ("early-returns", "Use early returns for clarity"), ("error-handling", "Comprehensive error handling")]

def behaviors : Table String :=
  [("explain", "Explain complex architectural decisions"), ("ask-first", "Ask before making major changes"),
    ("tdd", "Write tests before implementation (TDD)"), ("fast", "Move fast and iterate quickly"),
    ("patterns", "Follow existing code patterns")]

def commitStyles : Table String :=
  [("conventional", "Conventional commits (feat:, fix:, etc.)"),
    ("simple", "Simple, concise commit messages"), ("detailed", "Detailed commits with body")]

def branchStrategies : Table String :=
  [("feature-slash", "feature/branch-name"), ("feature-dash", "feature-branch-name"),
    ("username", "username/feature-name")]

def fileExtensions : Table String :=
  [("TypeScript", "ts"), ("JavaScript", "js"), ("Python", "py"), ("Go", "go"), ("Java", "java"),
    ("Ruby", "rb"), ("Rust", "rs"), ("C++", "cpp"), ("C#", "cs")]

def ofTable (table : Table String) (answer : Option String) : String :=
  match answer with
  | none => ""
  | some name => (table.get? name).getD name

/-- Whether there is an answer that is not empty. -/
def given (answer : Option String) : Option String := answer.filter (· ≠ "")

def projectType (answer : Option String) : String := ofTable projectTypes answer

/-- The label of a stack. The name of a custom stack counts for `custom` and for a stack without a label
of its own. -/
def stack (answer customStack : Option String) : String :=
  match answer, given customStack with
  | some "custom", some name => name
  | _, custom =>
    match answer.bind stackNames.get? with
    | some label => label
    | none => (custom.or (given answer)).getD "Custom"

def language (answer customLanguage : Option String) : String :=
  match answer, given customLanguage with
  | some "Other", some name => name
  | _, _ => (given answer).getD "Not specified"

def database (answer customDatabase : Option String) : String :=
  match answer, given customDatabase with
  | some "other", some name => name
  | _, _ => ofTable databases answer

def deployment (answer : Option String) : String := ofTable deployments answer

def testing (answer : Option String) : String := ofTable testingFrameworks answer

def styling (answer : Option String) : String := ofTable stylings answer

def fileExtension (answer customLanguage : Option String) : String :=
  let name := if answer = some "Other" then customLanguage else answer
  (fileExtensions.get? (name.getD "")).getD "js"

/-- The labels of all answers, under the names by which templates know them. -/
def all (answers : Answers) : Table Value :=
  [("projectTypeLabel", .str (projectType answers.projectType)),
    ("stackLabel", .str (stack answers.stack answers.customStack)),
    ("languageLabel", .str (language answers.language answers.customLanguage)),
    ("databaseLabel", .str (database answers.database answers.customDatabase)),
    ("deploymentLabel", .str (deployment answers.deployment)),
    ("testingLabel", .str (testing answers.testing)),
    ("stylingLabel", .str (styling answers.styling)),
    ("componentLibraryLabel", .str (ofTable componentLibraries answers.componentLibrary)),
    ("gitCommitLabel", .str (ofTable commitStyles answers.gitCommitStyle)),
    ("branchStrategyLabel", .str (ofTable branchStrategies answers.branchStrategy)),
    ("codeStyleLabels",
      .strings (answers.codeStyle.map fun style => ofTable codeStyles (some style))),
    ("behaviorLabels",
      .strings (answers.assistantBehavior.map fun behavior => ofTable behaviors (some behavior)))]

end Label

end Handbook.Document
