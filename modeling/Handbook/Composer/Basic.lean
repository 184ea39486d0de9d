import Handbook.Answers.Verdict
import Handbook.Catalog
import Handbook.Composer.Draft
import Handbook.Console.Notice
import Handbook.Document.Page
import Handbook.Environment
import Handbook.Template.Cache
import Handbook.Template.Engine

/-!
Composing a document. Raw answers are judged, providers are selected and asked whether they go together,
every provider looks at the project folder and contributes, entries are derived from the whole, and the
template is rendered. What happens on the way is recorded in order: notices for the console, and which
provider has started to look at the folder or has been merged.
-/

namespace Handbook

structure Composer where
  catalog : Catalog
  engine : Template.Engine
  cache : Template.Cache
  settings : Settings
  loans : Composer.Loans

namespace Composer

/-- Something that happened during a composition. -/
inductive Event where
  | shown (notice : Console.Notice)
  | started (provider : String)
  | merged (provider : String)
  deriving Repr, DecidableEq

/-- Why a composition ends without a document. -/
inductive Fault where
  | notRecord (answers : Value)
  | invalid (violations : List Violation)
  | unreadable (problems : List Problem)
  | selection (failure : Failure)
  | compatibility (failure : Failure)
  | provider (name : String) (failure : Failure)
  | load (fault : Template.LoadFault)
  | render (fault : Template.Fault)
  | context (failure : Failure)

/-- A composed document and all that went into it. -/
structure Product where
  markdown : String
  context : Context
  providers : List String
  files : List ConfigFile
  conflicts : List Conflict
  warnings : List String

/-- What changes during a composition: the engine, its cache, what has become of lent values, and the
record of what has happened. -/
structure Run where
  engine : Template.Engine
  cache : Template.Cache
  loans : Loans
  events : List Event

/-- A step of a composition. What it has changed stays, even if it fails. -/
abbrev Step := ExceptT Fault (StateM Run)

def note (event : Event) : Step Unit := modify fun run => { run with events := run.events ++ [event] }

def tell (notice : Console.Notice) : Step Unit := note (.shown notice)

/-- A result whose failure ends the composition. -/
def orFail {α : Type} (fault : Failure → Fault) (result : Except Failure α) : Step α :=
  match result with
  | .ok value => pure value
  | .error failure => throw (fault failure)

/-- A provider and what it has found in the project folder. -/
structure Bound where
  provider : Provider
  findings : Findings

/-! Selection. -/

/-- The names of the providers that the answers ask for. -/
def candidates (answers : Answers) : List String :=
  let wanted (answer : Option String) (but : List String) : List String :=
    (answer.filter fun name => !but.contains name).toList
  wanted answers.stack ["", "custom"]
    ++ (wanted answers.database ["", "none"] ++ wanted answers.testing ["", "none"]
      ++ wanted answers.styling [""]).map (· ++ "-plugin")

/-- The registered ones among the named providers, each bound to the answers; every other name is noted. -/
def selectAmong (catalog : Catalog) (answers : Answers) : List String → Step (List Provider)
  | [] => return []
  | name :: rest => do
    match catalog.get? name with
    | some provider =>
      orFail .selection (provider.bindTo answers)
      return provider :: (← selectAmong catalog answers rest)
    | none =>
      tell (Console.skipped name)
      selectAmong catalog answers rest

/-- The providers that the answers ask for. -/
def select (catalog : Catalog) (answers : Answers) : Step (List Provider) :=
  selectAmong catalog answers (candidates answers)

/-! Building the context. -/

/-- A step of a merge as one of a composition. -/
def merging {α : Type} (fault : Failure → Fault) (step : Merging α) : Step α := do
  let run ← get
  let (outcome, loans) := step.run.run run.loans
  set { run with loans }
  orFail fault outcome

/-- Lets every provider look at the project folder and merges its contribution, one after the other. -/
def mergeAll (workspace : Workspace) (answers : Answers) :
    Draft → List Provider → Step (Context × List Bound)
  | draft, [] => return (draft.context, [])
  | draft, provider :: rest => do
    let blame := Fault.provider provider.name
    note (.started provider.name)
    let findings ← orFail blame (provider.prepare workspace answers {})
    let draft ← merging blame (draft.merge provider (provider.contribute answers findings))
    note (.merged provider.name)
    let (context, later) ← mergeAll workspace answers draft rest
    return (context, ⟨provider, findings⟩ :: later)

def firstOf (bound : List Bound) (category : Category) : Option Bound :=
  bound.find? fun candidate => candidate.provider.descriptor.category = .known category

/-- A part that the first provider of a category contributes. -/
def partOf (answers : Answers) (bound : List Bound) (category : Category) (part : Part) :
    Step (Option part.Content) :=
  match firstOf bound category with
  | none => return none
  | some first =>
    some <$> orFail (.provider first.provider.name)
      (first.provider.contribute answers first.findings part)

/-- The context with everything that is derived from the whole. -/
def derive (environment : Environment) (settings : Settings) (answers : Answers)
    (context : Context) (bound : List Bound) : Step Context := do
  let context ← orFail .context (context.withLabels answers).withCommandList
  let tree ← partOf answers bound .stack .fileStructure
  let context := context.put "fileStructure"
    (.str ((Document.Label.given tree).getD (Document.plainFileTree answers)))
  let strategy ← partOf answers bound .testing .testingStrategy
  let context := context.put "testingStrategy"
    (.str ((Document.Label.given strategy.join).getD (Document.testingStrategy answers.testing)))
  let guidelines ← partOf answers bound .styling .uiGuidelines
  let context := context.put "uiGuidelines"
    (.str ((Document.Label.given guidelines.join).getD (Document.uiGuidelines answers.styling)))
  let probed := if settings.probesEnvironment then some (environment.hasProgram "gh") else none
  return Context.withSections context answers probed

/-- The context of a document that the providers contribute to. -/
def buildContext (environment : Environment) (settings : Settings) (answers : Answers)
    (providers : List Provider) : Step Context := do
  let date ← orFail .context environment.dateText
  let start := Draft.ofContext (Context.start settings date answers)
  let (context, bound) ← mergeAll environment.workspace answers start providers
  derive environment settings answers context bound

/-! Rendering. -/

def template (workspace : Workspace) (settings : Settings) : Step String := do
  match settings.templatePath with
  | none => return Document.page
  | some path =>
    let run ← get
    let (outcome, cache) := run.cache.load workspace path.text
    set { run with cache }
    match outcome with
    | .ok text => return text
    | .error fault => throw (.load fault)

def render (text : String) (context : Context) : Step String := do
  let run ← get
  let (outcome, engine) := run.engine.render text context
  set { run with engine }
  match outcome with
  | .ok markdown => return markdown
  | .error fault => throw (.render fault)

/-! The whole composition. -/

def summaryRows (product : Product) : Except Failure (List (String × String)) := do
  let production ← Context.lengthOf (product.context.entry "productionDependencies")
  let development ← Context.lengthOf (product.context.entry "developmentDependencies")
  let providers := if product.providers = [] then "none" else ", ".intercalate product.providers
  let label ← ((product.context.get? "stackLabel").getD (.str "Not specified")).toText Value.shown
  return [("Stack", label),
    ("Providers", providers),
    ("Dependencies", s!"{production} production, {development} development"),
    ("Config files", toString product.files.length),
    ("Conflicts", toString product.conflicts.length)]

/-- Composes a document from answers that have been accepted. -/
def composeFrom (catalog : Catalog) (settings : Settings) (environment : Environment)
    (warnings : List String) (answers : Answers) : Step Product := do
  let providers ← select catalog answers
  let names := providers.map Provider.name
  let conflicts ← orFail .compatibility (catalog.conflicts names)
  for conflict in conflicts do
    tell (Console.warning s!"Incompatible providers: {conflict.reason}")
  let context ← buildContext environment settings answers providers
  let text ← template environment.workspace settings
  let markdown ← render text context
  let files ← orFail .context context.files
  let product : Product := ⟨markdown, context, names, files, conflicts, warnings⟩
  let rows ← orFail .context (summaryRows product)
  for notice in Console.summary "Setup document" rows do
    tell notice
  tell (Console.success s!"Composed setup document from {names.length} provider(s)")
  return product

/-- Composes a document from raw answers. -/
def compose (catalog : Catalog) (settings : Settings) (environment : Environment) (config : Value) :
    Step Product := do
  match config with
  | .record entries =>
    let verdict := Verdict.ofEntries entries
    if !verdict.isValid then
      tell (Console.error ("Configuration invalid: " ++ "; ".intercalate verdict.errors))
      throw (.invalid verdict.violations)
    for text in verdict.warnings do
      tell (Console.warning s!"Warning: {text}")
    match Answers.ofEntries entries with
    | .error problems => throw (.unreadable problems)
    | .ok answers => composeFrom catalog settings environment verdict.warnings answers
  | other => throw (.notRecord other)

/-- Takes a step with a composer: the outcome, the composer that is left, and what has happened. -/
def perform {α : Type} (composer : Composer) (step : Step α) :
    Except Fault α × Composer × List Event :=
  let (outcome, run) := step.run.run ⟨composer.engine, composer.cache, composer.loans, []⟩
  (outcome, { composer with engine := run.engine, cache := run.cache, loans := run.loans }, run.events)

def generate (composer : Composer) (environment : Environment) (config : Value) :
    Except Fault Product × Composer × List Event :=
  composer.perform (compose composer.catalog composer.settings environment config)

/-! Its catalog. -/

/-- The composer with one more provider in its catalog. -/
def register (composer : Composer) (provider : Provider) : Except RegistrationFault Composer :=
  (composer.catalog.register provider).map fun catalog => { composer with catalog }

/-- The composer without a provider in its catalog. What the provider has lent goes with it. -/
def unregister (composer : Composer) (name : String) : Composer :=
  { composer with catalog := composer.catalog.unregister name, loans := composer.loans.erase name }

/-! Words. -/

/-- The words for a composition that failed because its answers are invalid. -/
def invalidMessage (violations : List Violation) : String :=
  "Configuration validation failed: " ++ ", ".intercalate (violations.map Violation.message)

/-- The words for a provider's failure. -/
def providerMessage (name : String) (failure : Failure) : String :=
  s!"Provider '{name}' failed: {failure.message}"

end Composer

end Handbook
