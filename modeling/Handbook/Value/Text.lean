import Handbook.Decimal.Shortest
import Handbook.Failure
import Handbook.Text.Numeral
import Handbook.Value.Basic

/-!
The two written forms of a value. The inserted form is what a template puts into a document: nothing for
null, `true` and `false`, the items of a list joined with commas. The literal form shows the structure:
quoted strings, brackets and braces. A record is always written in the literal form. A value that holds a
whole number of too many digits has no text in either form.
-/

namespace Handbook.Value

open Decimal Text

/-- A number without its trailing zeros, and how many there were. -/
def stripZeros (n : Nat) : Nat × Nat :=
  let digits := (Nat.toDigits 10 n).reverse
  let count := (digits.takeWhile (· = '0')).length
  (n / Nat.pow 10 count, count)

/-- A positive decimal. It is positional from `0.0001` up to sixteen digits before the point, and a whole
number keeps `.0`. Otherwise one digit stands before the point and the exponent has a sign and at least
two digits. -/
def decimalText (d : Decimal) : String :=
  let (significant, zeros) := stripZeros d.digits
  let digits := Nat.toDigits 10 significant
  let places : Int := digits.length + zeros + d.exponent
  let point (before after : List Char) := String.ofList before ++ "." ++ String.ofList after
  if -4 < places ∧ places ≤ 0 then
    point ['0'] (List.replicate (-places).toNat '0' ++ digits)
  else if 0 < places ∧ places ≤ 16 then
    let before := places.toNat
    if digits.length ≤ before then
      point (digits ++ List.replicate (before - digits.length) '0') ['0']
    else
      point (digits.take before) (digits.drop before)
  else
    let exponent := places - 1
    let size := Nat.toDigits 10 exponent.natAbs
    let padded := List.replicate (2 - size.length) '0' ++ size
    let head := if digits.length = 1 then String.ofList digits else point (digits.take 1) (digits.drop 1)
    head ++ "e" ++ (if exponent < 0 then "-" else "+") ++ String.ofList padded

/-- A floating-point number by the fewest digits that read back as it. -/
def floatText (x : Float) : String :=
  let sign (negative : Bool) := if negative then "-" else ""
  match unpack x.toBits with
  | .nan => "nan"
  | .infinite negative => sign negative ++ "inf"
  | .finite negative ⟨0, _⟩ => sign negative ++ "0.0"
  | .finite negative magnitude => sign negative ++ decimalText magnitude.shortest

mutual

def literal : Value → String
  | .null => "None"
  | .bool truth => if truth then "True" else "False"
  | .int number => toString number
  | .float number => floatText number
  | .str text => quotedString text
  | .list items => "[" ++ ", ".intercalate (literals items) ++ "]"
  | .record entries => "\x7b" ++ ", ".intercalate (entryLiterals entries) ++ "\x7d"

def literals : List Value → List String
  | [] => []
  | item :: rest => item.literal :: literals rest

def entryLiterals : List (String × Value) → List String
  | [] => []
  | (name, value) :: rest => (quotedString name ++ ": " ++ value.literal) :: entryLiterals rest

end

mutual

/-- The form in which a template inserts a value. -/
def inserted : Value → String
  | .null => ""
  | .bool truth => if truth then "true" else "false"
  | .list items => ",".intercalate (insertedItems items)
  | .str text => text
  | value => value.literal

def insertedItems : List Value → List String
  | [] => []
  | item :: rest => item.inserted :: insertedItems rest

end

/-- A string as it is, any other value in its literal form. -/
def shown : Value → String
  | .str text => text
  | value => value.literal

/-! Whether there is a text. -/

/-- Whether a whole number is short enough to be written. -/
def isShort (number : Int) : Bool := (Nat.toDigits 10 number.natAbs).length ≤ Numeral.limit

mutual

/-- Whether every whole number in the value is short enough to be written. -/
def isWritable : Value → Bool
  | .int number => isShort number
  | .list items => areWritable items
  | .record entries => entriesAreWritable entries
  | _ => true

def areWritable : List Value → Bool
  | [] => true
  | item :: rest => item.isWritable && areWritable rest

def entriesAreWritable : List (String × Value) → Bool
  | [] => true
  | (_, value) :: rest => value.isWritable && entriesAreWritable rest

end

/-- A number in a value is too long to be written. -/
def unwritable : Failure :=
  ⟨"ValueError", s!"Exceeds the limit ({Numeral.limit} digits) for integer string conversion; "
    ++ "use sys.set_int_max_str_digits() to increase the limit"⟩

/-- The text of a value in one of its forms, if it has any. -/
def toText (value : Value) (form : Value → String) : Except Failure String :=
  if value.isWritable then .ok (form value) else .error unwritable

variable {value : Value} {form : Value → String}

theorem to_text_of_writable (writable : value.isWritable = true) : value.toText form = .ok (form value) :=
  if_pos writable

theorem to_text_refused (refused : value.isWritable = false) : value.toText form = .error unwritable := by
  simp [toText, refused]

theorem to_text_ok {text : String} (made : value.toText form = .ok text) : text = form value := by
  unfold toText at made
  split at made <;> cases made
  rfl

theorem to_text_lost {failure : Failure} (lost : value.toText form = .error failure) :
    failure = unwritable ∧ value.isWritable = false := by
  unfold toText at lost
  split at lost <;> cases lost
  rename_i refused
  exact ⟨rfl, Bool.not_eq_true _ ▸ refused⟩

example : (Value.list [.str "a", .null, .list [.int 1, .bool true]]).inserted = "a,,1,true" := by
  decide

end Handbook.Value
