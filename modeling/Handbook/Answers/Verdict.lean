import Handbook.Answers.Basic

/-!
Judging raw answers. A verdict lists everything that is wrong: required answers that are missing, problems
of single fields, and, once all fields can be read, rules between fields that are broken. Pieces of advice
do not make answers invalid.
-/

namespace Handbook

/-- An answer that needs another one beside it. -/
inductive Rule where
  | customStack
  | customLanguage
  | customDatabase
  | customAuthentication
  | profileName
  deriving Repr, DecidableEq

/-- A combination of answers that is unusual. -/
inductive Advice where
  | styledComponentsWithAppRouter
  | mongodbWithGo
  | stylingWithoutPages
  | componentsInBackend
  deriving Repr, DecidableEq

/-- Something that makes answers invalid. -/
inductive Violation where
  | required (key : String)
  | problem (problem : Problem)
  | rule (rule : Rule)
  deriving Repr, DecidableEq

/-- What there is to say about raw answers. -/
structure Verdict where
  violations : List Violation
  advice : List Advice

namespace Rule

def all : List Rule := [customStack, customLanguage, customDatabase, customAuthentication, profileName]

def message : Rule → String
  | customStack => "customStack is required when stack is \"custom\""
  | customLanguage => "customLanguage is required when language is \"Other\""
  | customDatabase => "customDatabase is required when database is \"other\""
  | customAuthentication => "customAuthentication is required when authentication is \"other\""
  | profileName => "profileName is required when saveProfile is true"

def lacks (text : Option String) : Bool := text.getD "" = ""

def isBroken (answers : Answers) : Rule → Bool
  | customStack => answers.stack = some "custom" && lacks answers.customStack
  | customLanguage => answers.language = some "Other" && lacks answers.customLanguage
  | customDatabase => answers.database = some "other" && lacks answers.customDatabase
  | customAuthentication =>
    answers.authentication = some "other" && lacks answers.customAuthentication
  | profileName => answers.saveProfile && lacks answers.profileName

end Rule

namespace Advice

def all : List Advice :=
  [styledComponentsWithAppRouter, mongodbWithGo, stylingWithoutPages, componentsInBackend]

def message : Advice → String
  | styledComponentsWithAppRouter =>
    "Styled Components with App Router may require additional configuration"
  | mongodbWithGo => "MongoDB with Go may require additional driver setup"
  | stylingWithoutPages => "Styling frameworks are typically not needed for CLI tools or libraries"
  | componentsInBackend => "Component libraries are not typically used in backend-only projects"

def applies (answers : Answers) : Advice → Bool
  | styledComponentsWithAppRouter =>
    answers.stack = some "nextjs-app" && answers.styling = some "styled-components"
  | mongodbWithGo => answers.database = some "mongodb" && answers.language = some "Go"
  | stylingWithoutPages =>
    (answers.projectType = some "cli" || answers.projectType = some "library")
      && (answers.styling = some "tailwind" || answers.styling = some "styled-components")
  | componentsInBackend =>
    answers.projectType = some "backend" && answers.componentLibrary.isSome
      && answers.componentLibrary != some "none"

end Advice

def Violation.message : Violation → String
  | .required key => s!"Required field missing: {key}"
  | .problem found => found.message
  | .rule broken => broken.message

namespace Verdict

def isValid (verdict : Verdict) : Bool := verdict.violations.isEmpty

def errors (verdict : Verdict) : List String := verdict.violations.map Violation.message

def warnings (verdict : Verdict) : List String := verdict.advice.map Advice.message

def required : List String := ["projectType"]

/-- The required answers that are missing or null, looked for under the very keys. -/
def missing (entries : Table Value) : List Violation :=
  (required.filter fun key =>
    match entries.get? key with
    | some .null => true
    | some _ => false
    | none => true).map .required

def ofEntries (entries : Table Value) : Verdict :=
  match Answers.ofEntries entries with
  | .error problems => ⟨missing entries ++ problems.map .problem, []⟩
  | .ok answers =>
    ⟨missing entries ++ (Rule.all.filter (Rule.isBroken answers)).map .rule,
      Advice.all.filter (Advice.applies answers)⟩

end Verdict

end Handbook
