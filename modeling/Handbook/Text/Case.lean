import Handbook.Unicode.CaseTable
import Handbook.Unicode.CaseContext

/-!
Upper and lower case of whole texts. One character may become several. A capital sigma at the end of a
word becomes the final small sigma; no other character looks at its neighbours.
-/

namespace Handbook.Text

open Unicode

/-- A character in the other case: an expansion if there is one, else the row that moves it. -/
def changeCase (expansions : List (Nat × List Nat)) (rows : List CaseRow) (c : Char) : List Char :=
  match expansions.lookup c.toNat with
  | some codes => codes.map Char.ofNat
  | none => [((rows.findSome? (·.move? c.toNat)).map Char.ofNat).getD c]

/-- A number that is no character's code stands for the null character. -/
theorem char_of_code (code : Nat) : (Char.ofNat code).toNat = code ∨ Char.ofNat code = '\x00' := by
  by_cases valid : code.isValidChar
  · exact Or.inl (congrArg Char.toNat (dif_pos valid))
  · exact Or.inr (dif_neg valid)

def upper (text : List Char) : List Char := text.flatMap (changeCase upperExpansions upperRows)

/-- Whether the nearest character that is not passed over is a letter with case. -/
def meetsCased (text : List Char) : Bool :=
  ((text.find? fun c => !isCaseIgnorable c).map isCased).getD false

/-- The text in lower case, given the characters before it, the nearest first. -/
def lowerAfter (before : List Char) : List Char → List Char
  | [] => []
  | c :: rest =>
    let lowered :=
      if c = 'Σ' then
        [if meetsCased before && !meetsCased rest then 'ς' else 'σ']
      else
        changeCase lowerExpansions lowerRows c
    lowered ++ lowerAfter (c :: before) rest

def lower (text : List Char) : List Char := lowerAfter [] text

example : String.ofList (upper "straße".toList) = "STRASSE" := by decide
example : String.ofList (lower "ΟΔΟΣ ΣΑΣ".toList) = "οδος σας" := by decide +kernel

end Handbook.Text
