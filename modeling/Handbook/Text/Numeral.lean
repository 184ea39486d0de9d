import Handbook.Text.Quoted
import Handbook.Unicode.Digit

/-!
Reading whole numbers. A numeral is a run of decimal digits of any script; longer ones than the limit are
refused before anything else is looked at.
-/

namespace Handbook.Text.Numeral

open Unicode

/-- Why a text is no numeral. -/
inductive Fault where
  | malformed (text : List Char)
  | tooLong (digits : Nat)
  deriving Repr, DecidableEq

/-- The most digits that a numeral may have. -/
def limit : Nat := 4300

/-- The number that a run of decimal digits stands for. -/
def value (digits : List Nat) : Nat := digits.foldl (fun number digit => number * 10 + digit) 0

/-- The decimal digits at the start of a text. -/
def leadingDigits : List Char → List Nat
  | [] => []
  | c :: rest =>
    match decimalValue? c with
    | some digit => digit :: leadingDigits rest
    | none => []

/-- Reads a numeral that fills the whole text. -/
def read (text : List Char) : Except Fault Nat :=
  let digits := leadingDigits text
  if limit < digits.length then .error (.tooLong digits.length)
  else if digits.length = text.length ∧ text ≠ [] then .ok (value digits)
  else .error (.malformed text)

/-- The words for a fault; of a long text only the first two hundred characters are shown. -/
def Fault.message : Fault → String
  | .malformed text =>
    "invalid literal for int() with base 10: " ++ String.ofList ((quoted text).take 200)
  | .tooLong digits =>
    s!"Exceeds the limit ({limit} digits) for integer string conversion: value has {digits} digits; "
      ++ "use sys.set_int_max_str_digits() to increase the limit"

theorem length_leadingDigits_of_decimal {text : List Char} (decimal : ∀ c ∈ text, isDecimal c = true) :
    (leadingDigits text).length = text.length := by
  induction text with
  | nil => rfl
  | cons c rest ih =>
    have first := decimal c (by simp)
    obtain ⟨digit, read⟩ := Option.isSome_iff_exists.1 first
    simp [leadingDigits, read, ih fun d member => decimal d (by simp [member])]

/-- A text of decimal digits that keeps to the limit is a numeral. -/
theorem read_of_decimal {text : List Char} (decimal : ∀ c ∈ text, isDecimal c = true)
    (short : text.length ≤ limit) (solid : text ≠ []) :
    read text = .ok (value (leadingDigits text)) := by
  have same := length_leadingDigits_of_decimal decimal
  simp [read, same, solid, Nat.not_lt.2 short]

end Handbook.Text.Numeral
