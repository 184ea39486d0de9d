import Handbook.Value.Text

/-!
Values written as JSON text: on one line, or with every entry and item on its own line. Characters outside
ASCII stand for themselves; control characters, quotation marks and backslashes are escaped.
-/

namespace Handbook.Value

/-- One character inside a JSON string. -/
def jsonChar (c : Char) : List Char :=
  if c = '"' ∨ c = '\\' then ['\\', c]
  else if c = '\n' then ['\\', 'n']
  else if c = '\r' then ['\\', 'r']
  else if c = '\t' then ['\\', 't']
  else if c = '\x08' then ['\\', 'b']
  else if c = '\x0c' then ['\\', 'f']
  else if c.toNat < 0x20 then '\\' :: 'u' :: Text.hexDigits 4 c.toNat
  else [c]

def jsonString (text : String) : String :=
  String.ofList ('"' :: text.toList.flatMap jsonChar ++ ['"'])

/-- A floating-point number; the values that are no number have names. -/
def jsonFloat (x : Float) : String :=
  match Decimal.unpack x.toBits with
  | .nan => "NaN"
  | .infinite negative => if negative then "-Infinity" else "Infinity"
  | .finite _ _ => floatText x

/-- Parts between brackets. With an indentation every part has its own line, one step further in. -/
def bracketed (indent : Option Nat) (level : Nat) (opening closing : String) (parts : List String) :
    String :=
  match parts, indent with
  | [], _ => opening ++ closing
  | _, none => opening ++ ", ".intercalate parts ++ closing
  | _, some step =>
    let line (depth : Nat) := "\n" ++ String.ofList (List.replicate (step * depth) ' ')
    opening ++ line (level + 1) ++ ("," ++ line (level + 1)).intercalate parts ++ line level ++ closing

mutual

/-- The value as JSON text inside `level` brackets. -/
def jsonAt (indent : Option Nat) (level : Nat) : Value → String
  | .null => "null"
  | .bool truth => if truth then "true" else "false"
  | .int number => toString number
  | .float number => jsonFloat number
  | .str text => jsonString text
  | .list items => bracketed indent level "[" "]" (jsonItems indent (level + 1) items)
  | .record entries => bracketed indent level "\x7b" "\x7d" (jsonEntries indent (level + 1) entries)

def jsonItems (indent : Option Nat) (level : Nat) : List Value → List String
  | [] => []
  | item :: rest => item.jsonAt indent level :: jsonItems indent level rest

def jsonEntries (indent : Option Nat) (level : Nat) : List (String × Value) → List String
  | [] => []
  | (name, value) :: rest =>
    (jsonString name ++ ": " ++ value.jsonAt indent level) :: jsonEntries indent level rest

end

/-- The value as JSON text, on one line or with the given step of indentation. -/
def json (value : Value) (indent : Option Nat) : String := value.jsonAt indent 0

example : (Value.record [("a", .list [.int 1, .null])]).json none = "\x7b\"a\": [1, null]\x7d" := by
  decide

end Handbook.Value
