import Handbook.Table

/-!
Descriptors: what is known about a provider without asking it.
-/

namespace Handbook

/-- Categories of providers, in the order in which a document selects them. -/
inductive Category where
  | stack
  | database
  | testing
  | styling
  | misc
  deriving Repr, DecidableEq

namespace Category

def all : List Category := [stack, database, testing, styling, misc]

def name : Category → String
  | stack => "stack"
  | database => "database"
  | testing => "testing"
  | styling => "styling"
  | misc => "misc"

def ofName? (text : String) : Option Category := all.find? fun category => category.name = text

theorem ofName?_name (category : Category) : ofName? category.name = some category := by
  cases category <;> decide

end Category

/-- The category that a descriptor gives: a real one, or a text that need not name one. -/
inductive CategoryTag where
  | known (category : Category)
  | unknown (text : String)
  deriving Repr, DecidableEq

def CategoryTag.text : CategoryTag → String
  | .known category => category.name
  | .unknown written => written

/-- What is known about a provider without asking it. -/
structure Descriptor where
  name : String
  displayName : String
  category : CategoryTag
  projectTypes : List String
  languages : List String
  icon : Option String
  description : String
  version : String := "1.0.0"
  deriving Repr, DecidableEq

end Handbook
