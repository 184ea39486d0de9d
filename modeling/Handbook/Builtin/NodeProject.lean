import Handbook.Provider.Basic
import Handbook.Text.Lines
import Handbook.Workspace.Probe

/-!
What providers for Node projects have in common: they look for a lockfile, so that commands use the package
manager that the project already has, and most of their files depend on whether types are used.
-/

namespace Handbook.Builtin

/-- Texts that are wanted under a condition. -/
def when {α : Type} (condition : Bool) (items : List α) : List α := if condition then items else []

def nodeLanguages : List String := ["TypeScript", "JavaScript"]

/-- Whether the project uses types; it does unless another language is chosen. -/
def usesTypes (answers : Answers) : Bool :=
  answers.language = none || answers.language = some "TypeScript"

def scriptEnding (answers : Answers) : String := if usesTypes answers then "ts" else "js"

def componentEnding (answers : Answers) : String := if usesTypes answers then "tsx" else "jsx"

def scriptLanguage (answers : Answers) : String :=
  if usesTypes answers then "typescript" else "javascript"

/-- The manager of a project: the one that was found, else the one that was chosen. -/
def managerOf (answers : Answers) (findings : Findings) : String :=
  findings.packageManager.getD (answers.packageManager.getD "npm")

def runner (manager : String) : String := if manager = "npm" then "npm run" else manager

def nodeCommands (manager : String) : Table String :=
  [("dev", s!"{runner manager} dev"), ("build", s!"{runner manager} build"),
    ("test", s!"{manager} test"), ("lint", s!"{runner manager} lint")]

/-- Looks for a lockfile unless a package manager has been chosen. Without one, what was found before
stays. -/
def findManager (workspace : Workspace) (answers : Answers) (findings : Findings) :
    Except Failure Findings := do
  match answers.packageManager with
  | some _ => return findings
  | none =>
    match ← workspace.packageManager answers.projectRoot with
    | some manager => return { findings with packageManager := some manager }
    | none => return findings

def stylingPackages (answers : Answers) : List String :=
  when (answers.styling = some "tailwind") ["tailwindcss", "postcss", "autoprefixer"]

/-- Packages for the chosen framework, if there are any for it. -/
def packagesFor (choice : Option String) (packages : Table (List String)) : List String :=
  (choice.bind packages.get?).getD []

def bullets (texts : List String) : String := Text.lines (texts.map ("- " ++ ·))

end Handbook.Builtin
