import Handbook.Template.Tag
import Handbook.Text.Numeral
import Handbook.Value.Basic

/-!
Looking up paths in a context. `this` and the names that start with `@` are bound by loops and are looked
up as a whole. Any other path is followed part by part, through records by name and through lists by
index; what is missing is null.
-/

namespace Handbook.Template

open Text

/-- The parts of a path that a list takes as an index. -/
def isIndex (part : List Char) : Bool := part ≠ [] && part.all Unicode.isDigit

/-- One step from a value. Only an index that is a numeral can be read; any other one made of digits is a
fault. -/
def step (value : Value) (part : List Char) : Except Numeral.Fault Value :=
  match value with
  | .record entries => return (Table.get? entries (String.ofList part)).getD .null
  | .list items =>
    if isIndex part then
      return (items[← Numeral.read part]?).getD .null
    else
      return .null
  | _ => return .null

/-- The value at the end of a path; from null every path leads to null. -/
def follow (value : Value) : List (List Char) → Except Numeral.Fault Value
  | [] => return value
  | part :: rest => do follow (← step value part) rest

def lookUp (context : Table Value) (path : List Char) : Except Numeral.Fault Value :=
  if path = ['t', 'h', 'i', 's'] ∨ path.head? = some '@' then
    return (context.get? (String.ofList path)).getD .null
  else
    follow (.record context) (splitDots path)

theorem follow_null (parts : List (List Char)) : follow .null parts = .ok .null := by
  induction parts with
  | nil => rfl
  | cons part rest ih => simpa [follow, step, pure, Except.pure, bind, Except.bind] using ih

end Handbook.Template
