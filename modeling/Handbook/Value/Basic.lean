import Handbook.Table

/-!
Values: what answers, contributions and template contexts are made of. Whole numbers are unbounded and
apart from floating-point numbers, and a record keeps the order of its entries.
-/

namespace Handbook

inductive Value where
  | null
  | bool (truth : Bool)
  | int (number : Int)
  | float (number : Float)
  | str (text : String)
  | list (items : List Value)
  | record (entries : List (String × Value))
  deriving Inhabited

namespace Value

/-- Whether the value counts as true: not null, not false, not zero and not empty. -/
def isTrue : Value → Bool
  | .null => false
  | .bool truth => truth
  | .int number => number ≠ 0
  | .float number => number != 0
  | .str text => text ≠ ""
  | .list items => !items.isEmpty
  | .record entries => !entries.isEmpty

def strings (texts : List String) : Value := .list (texts.map .str)

def ofTexts (table : Table String) : Value := .record (table.map fun entry => (entry.1, .str entry.2))

/-- A string, or null if there is none. -/
def ofText? (text : Option String) : Value := (text.map .str).getD .null

end Value

end Handbook
