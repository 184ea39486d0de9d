import Handbook.Unicode.Blank

/-!
Removing blank characters from both ends of a text. Blank characters inside the text stay.
-/

namespace Handbook.Text

open Unicode

/-- The text without its leading blank characters. -/
def trimStart (text : List Char) : List Char := text.dropWhile isBlank

/-- The text without its trailing blank characters. -/
def trimEnd (text : List Char) : List Char := (text.reverse.dropWhile isBlank).reverse

def trim (text : List Char) : List Char := trimEnd (trimStart text)

def trimString (text : String) : String := String.ofList (trim text.toList)

theorem trimStart_of_not_blank {c : Char} {rest : List Char} (solid : isBlank c = false) :
    trimStart (c :: rest) = c :: rest := by
  simp [trimStart, solid]

theorem trimStart_idem (text : List Char) : trimStart (trimStart text) = trimStart text := by
  induction text with
  | nil => rfl
  | cons c rest ih =>
    cases blank : isBlank c
    · simp [trimStart, blank]
    · simpa [trimStart, blank] using ih

theorem trimEnd_idem (text : List Char) : trimEnd (trimEnd text) = trimEnd text := by
  have := trimStart_idem text.reverse
  simp only [trimStart] at this
  simp [trimEnd, this]

end Handbook.Text
