import Handbook.Failure
import Handbook.Value.Basic

/-!
Failures that come from using a value as something that it is not: as a table, a list or a text with
operations that its kind does not have.
-/

namespace Handbook.Value

def typeName : Value → String
  | .null => "NoneType"
  | .bool _ => "bool"
  | .int _ => "int"
  | .float _ => "float"
  | .str _ => "str"
  | .list _ => "list"
  | .record _ => "dict"

/-- The kind of the value has no such operation. -/
def lacks (value : Value) (operation : String) : Failure :=
  ⟨"AttributeError", s!"'{value.typeName}' object has no attribute '{operation}'"⟩

def notIterable (value : Value) : Failure := ⟨"TypeError", s!"'{value.typeName}' object is not iterable"⟩

def noLength (value : Value) : Failure :=
  ⟨"TypeError", s!"object of type '{value.typeName}' has no len()"⟩

end Handbook.Value
