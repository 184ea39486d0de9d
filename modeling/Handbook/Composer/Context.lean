import Handbook.Document.Section
import Handbook.Provider.Basic
import Handbook.Settings
import Handbook.Value.Misuse

/-!
The context of a document: what its template is rendered with. It starts from the answers and the
settings, and entries that are derived from the whole come last. Files and sections are kept as records,
which a template can walk through; the files are read back when the document is done.
-/

namespace Handbook.Composer

abbrev Context := Table Value

/-- The guidelines that every document starts with. -/
def commonGuidelines : List String :=
  ["Never commit .env files", "Validate all user inputs", "Use environment variables for secrets",
    "Implement proper authentication", "Enable CORS appropriately", "Use HTTPS in production",
    "Regular dependency updates", "SQL injection prevention (if using SQL)", "XSS protection"]

/-- The commands that every document starts with. -/
def commonCommands (manager : String) : Table String :=
  [("dev", s!"{manager} run dev"), ("build", s!"{manager} run build"), ("test", s!"{manager} test"),
    ("testWatch", s!"{manager} test:watch"), ("lint", s!"{manager} run lint")]

namespace Context

def entry (context : Context) (name : String) : Value := (context.get? name).getD .null

/-- The context before any provider has contributed. -/
def start (settings : Settings) (date : String) (answers : Answers) : Context :=
  let manager := answers.packageManager.getD settings.packageManager.name
  [("config", .record answers.toRecord), ("version", .str settings.version),
    ("profileName", .str ((Document.Label.given answers.profileName).getD "custom")),
    ("date", .str date), ("packageManager", .str manager), ("productionDependencies", .list []),
    ("developmentDependencies", .list []), ("configFiles", .list []), ("customSections", .list []),
    ("commands", .ofTexts (commonCommands manager)),
    ("securityGuidelines", .strings commonGuidelines)]

def fileValue (file : ConfigFile) : Value :=
  .record [("name", .str file.name), ("language", .str file.language), ("content", .str file.content)]

def sectionValue (part : Section) : Value :=
  .record [("title", .str part.title), ("content", .str part.content)]

/-! Derived entries. -/

def withLabels (context : Context) (answers : Answers) : Context :=
  Table.merge context (Document.Label.all answers)

/-- The context with its commands as a list of names and commands. -/
def withCommandList (context : Context) : Except Failure Context :=
  match context.entry "commands" with
  | .record commands =>
    return context.put "commandList"
      (.list (commands.map fun (name, command) =>
        .record [("name", .str name), ("command", command)]))
  | other => throw (other.lacks "items")

/-- The context with the sections that depend on the answers. Whether the command-line tool for pull
requests is there is told only if the environment is looked at. -/
def withSections (context : Context) (answers : Answers) (probed : Option Bool) : Context :=
  Table.merge context
    [("hasGitHubCli", .bool (probed.getD false)),
      ("githubCliSection", .str ((probed.map Document.githubCliSection).getD "")),
      ("mcpSection", .str (Document.mcpSection answers.mcpServers)),
      ("toolAllowlistSection", .str (Document.toolAllowlistSection answers)),
      ("workflowSection", .str (Document.workflowSection answers.preferredWorkflow)),
      ("teamCollaborationSection", .str (Document.teamCollaborationSection answers.teamFeatures))]

/-! Reading a context back. -/

def readFileText (entries : Table Value) (name : String) (default : Except Misfit String) :
    Except String String :=
  match entries.get? name with
  | none => default.mapError fun _ => s!"{name}: Field required"
  | some value => (readText value).mapError fun misfit => s!"{name}: {misfit.message}"

/-- The reason why a reading failed, if it did. -/
def reasonOf {α : Type} : Except String α → List String
  | .ok _ => []
  | .error reason => [reason]

def readFile : Value → Except Failure ConfigFile
  | .record entries =>
    let name := readFileText entries "name" (.error .notText)
    let language := readFileText entries "language" (.ok "")
    let content := readFileText entries "content" (.ok "")
    match name, language, content with
    | .ok name, .ok language, .ok content => .ok ⟨name, language, content⟩
    | _, _, _ =>
      .error ⟨"ValidationError",
        "; ".intercalate (reasonOf name ++ reasonOf language ++ reasonOf content)⟩
  | other =>
    .error ⟨"TypeError",
      "setupdoc.providers.contract.ConfigFile() argument after ** must be a mapping, not "
        ++ other.typeName⟩

/-- The items of a value; those of a text are its characters, and those of a record its names. -/
def itemsOf : Value → Except Failure (List Value)
  | .list items => .ok items
  | .record entries => .ok (entries.map fun entry => .str entry.1)
  | .str text => .ok (text.toList.map fun c => .str c.toString)
  | other => .error other.notIterable

def lengthOf (value : Value) : Except Failure Nat :=
  match itemsOf value with
  | .ok items => .ok items.length
  | .error _ => .error value.noLength

def files (context : Context) : Except Failure (List ConfigFile) := do
  (← itemsOf (context.entry "configFiles")).mapM readFile

end Context

end Handbook.Composer
