import Handbook.Value.Basic

/-!
Shapes of answers: one name out of a list, a free text, several names out of a list, or a flag. Reading a
value in a shape either gives what the shape carries or says which part of the value does not fit and why.
-/

namespace Handbook

/-- One name out of a list. -/
structure OneOf (names : List String) where
  name : String
  listed : name ∈ names
  deriving DecidableEq

/-- What an answer may look like. -/
inductive Shape where
  | choice (names : List String)
  | text
  | choices (names : List String)
  | flag
  deriving DecidableEq

/-- Why a value does not fit. -/
inductive Misfit where
  | notListed (names : List String)
  | notText
  | notFlag
  | unreadableFlag
  | notPath
  | notRecord
  | frozen
  deriving Repr, DecidableEq

/-- A list of alternatives in words: commas, and `or` before the last one. -/
def alternatives : List String → String
  | [] => ""
  | [only] => only
  | [first, last] => first ++ " or " ++ last
  | first :: rest => first ++ ", " ++ alternatives rest

def Misfit.message : Misfit → String
  | .notListed names => "Input should be " ++ alternatives (names.map fun name => s!"'{name}'")
  | .notText => "Input should be a valid string"
  | .notFlag => "Input should be a valid boolean"
  | .unreadableFlag => "Input should be a valid boolean, unable to interpret input"
  | .notPath => "Input is not a valid path for <class 'pathlib.Path'>"
  | .notRecord => "Input should be a valid dictionary or instance of ProjectConfig"
  | .frozen => "Instance is frozen"

/-- The words that stand for false and for true, in any case. -/
def flagWords : List (String × Bool) :=
  [("0", false), ("off", false), ("f", false), ("false", false), ("n", false), ("no", false),
    ("1", true), ("on", true), ("t", true), ("true", true), ("y", true), ("yes", true)]

/-- Whether a whole number fits into 64 bits with a sign. -/
def fitsWord (number : Int) : Bool := -9223372036854775808 ≤ number && number < 9223372036854775808

/-- Whether a float is a whole number strictly between the ends of 64 bits with a sign. -/
def isWholeWord (number : Float) : Bool :=
  number.floor == number && -9223372036854775808 < number && number < 9223372036854775808

/-- Reads a flag: a truth value, a zero or a one, or a word. Another whole number of 64 bits could have
been a flag but is none; anything else is of the wrong kind. -/
def readFlag : Value → Except Misfit Bool
  | .bool truth => .ok truth
  | .int number =>
    if number = 0 then .ok false
    else if number = 1 then .ok true
    else if fitsWord number then .error .unreadableFlag
    else .error .notFlag
  | .float number =>
    if number == 0 then .ok false
    else if number == 1 then .ok true
    else if isWholeWord number then .error .unreadableFlag
    else .error .notFlag
  | .str text =>
    match flagWords.lookup (text.map Char.toLower) with
    | some truth => .ok truth
    | none => .error .unreadableFlag
  | _ => .error .notFlag

def readChoice (names : List String) : Value → Except Misfit (OneOf names)
  | .str text => if listed : text ∈ names then .ok ⟨text, listed⟩ else .error (.notListed names)
  | _ => .error (.notListed names)

def readText : Value → Except Misfit String
  | .str text => .ok text
  | _ => .error .notText

/-- The items of a list that could be read, and the misfits of the others with their places. -/
def readItems {α : Type} (read : Value → Except Misfit α) :
    Nat → List Value → List α × List (Nat × Misfit)
  | _, [] => ([], [])
  | place, item :: rest =>
    let (fitting, misfits) := readItems read (place + 1) rest
    match read item with
    | .ok value => (value :: fitting, misfits)
    | .error misfit => (fitting, (place, misfit) :: misfits)

namespace Shape

/-- What an answer of a shape carries; all but flags and lists may be absent. -/
@[reducible]
def Carrier : Shape → Type
  | .choice names => Option (OneOf names)
  | .text => Option String
  | .choices names => List (OneOf names)
  | .flag => Bool

/-- What an answer carries that was not given. -/
def absent : (shape : Shape) → shape.Carrier
  | .choice _ => none
  | .text => none
  | .choices _ => []
  | .flag => false

/-- Reads a value in a shape. A misfit inside a list comes with its place. -/
def read : (shape : Shape) → Value → Except (List (Option Nat × Misfit)) shape.Carrier
  | .choice names, value => ((readChoice names value).map some).mapError fun misfit => [(none, misfit)]
  | .text, value => ((readText value).map some).mapError fun misfit => [(none, misfit)]
  | .choices names, .list items =>
    match readItems (readChoice names) 0 items with
    | (fitting, []) => .ok fitting
    | (_, misfits) => .error (misfits.map fun (place, misfit) => (some place, misfit))
  | .choices names, _ => .error [(none, .notListed names)]
  | .flag, value => (readFlag value).mapError fun misfit => [(none, misfit)]

/-- What an answer carries as a value; nothing if it is absent. -/
def write : (shape : Shape) → shape.Carrier → Option Value
  | .choice _, chosen => chosen.map fun choice => .str choice.name
  | .text, given => given.map .str
  | .choices _, chosen => some (.list (chosen.map fun choice => .str choice.name))
  | .flag, truth => some (.bool truth)

theorem readItems_written {names : List String} (place : Nat) (chosen : List (OneOf names)) :
    readItems (readChoice names) place (chosen.map fun choice => .str choice.name) = (chosen, []) := by
  induction chosen generalizing place with
  | nil => rfl
  | cons choice rest ih => simp [readItems, ih, readChoice, choice.listed]

/-- What has been written reads back. -/
theorem read_write {shape : Shape} {carried : shape.Carrier} {value : Value}
    (written : shape.write carried = some value) : shape.read value = .ok carried := by
  cases shape with
  | choice names =>
    obtain ⟨chosen, rfl, rfl⟩ := Option.map_eq_some_iff.1 (show Option.map _ carried = _ from written)
    simp only [read, readChoice, chosen.listed]
    rfl
  | text =>
    obtain ⟨given, rfl, rfl⟩ := Option.map_eq_some_iff.1 (show Option.map _ carried = _ from written)
    rfl
  | choices names =>
    obtain rfl := Option.some.inj (show some (Value.list _) = _ from written)
    simp [read, readItems_written]
  | flag =>
    obtain rfl := Option.some.inj (show some (Value.bool _) = _ from written)
    rfl

end Shape

end Handbook
