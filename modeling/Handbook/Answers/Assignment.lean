import Handbook.Answers.Basic
import Handbook.Value.Misuse

/-!
Writing to answers. Answers are frozen: writing to a name fails, whether or not it is the name of a field
or of an extra. Only a name with an underscore in front is none that an answer could have. What is written
there is set aside, except under the few names that stand for what the answers are made of.
-/

namespace Handbook.Answers

/-- What a name with an underscore in front stands for. -/
inductive Inside where
  | fields
  | extras
  | kind
  | readOnly (reason : String)
  | aside
  deriving Repr, DecidableEq

/-- What a name stands for; nothing if it could be the name of an answer. -/
def Inside.ofName? (name : String) : Option Inside :=
  if !name.startsWith "_" then Option.none
  else if name = "__dict__" then some fields
  else if name = "__pydantic_extra__" then some extras
  else if name = "__class__" then some kind
  else if name = "__weakref__" then
    some (readOnly "attribute '__weakref__' of 'ProjectConfig' objects is not writable")
  else if name = "__fields_set__" then
    some (readOnly "property '__fields_set__' of 'ProjectConfig' object has no setter")
  else some aside

/-- Why nothing is written. -/
inductive AssignFault where
  | frozen (problem : Problem)
  | refused (failure : Failure)
  deriving Repr, DecidableEq

/-- The fields of answers, and over them their extras. -/
def together (fields extras : Table Value) : Value := .record (Table.merge fields extras)

/-- The answers after a value has been written to a name, as one record. -/
def assign (answers : Answers) (name : String) (value : Value) : Except AssignFault Value :=
  match Inside.ofName? name, value with
  | Option.none, _ => .error (.frozen ⟨name, .none, .frozen⟩)
  | some .fields, .record entries =>
    let known := entries.filter fun entry => Field.all.any fun field => field.snakeKey = entry.1
    .ok (together known answers.extras)
  | some .fields, other =>
    .error (.refused ⟨"TypeError",
      s!"__dict__ must be set to a dictionary, not a '{other.typeName}'"⟩)
  | some .extras, .record extras => .ok (together answers.fieldValues extras)
  | some .extras, .null => .ok (together answers.fieldValues [])
  | some .extras, other => .ok (.list [.record answers.fieldValues, other])
  | some .kind, other =>
    .error (.refused ⟨"TypeError",
      s!"__class__ must be set to a class, not '{other.typeName}' object"⟩)
  | some (.readOnly reason), _ => .error (.refused ⟨"AttributeError", reason⟩)
  | some .aside, _ => .ok (together answers.fieldValues answers.extras)

/-- Nothing that an answer could be called by is ever written to. -/
theorem assign_eq_frozen {name : String} (plain : name.startsWith "_" = false) (answers : Answers)
    (value : Value) : answers.assign name value = .error (.frozen ⟨name, .none, .frozen⟩) := by
  simp [assign, Inside.ofName?, plain]

end Handbook.Answers
