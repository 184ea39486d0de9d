import Handbook.Unicode.Blocks

/-!
Blank characters: the characters whose bidirectional class is a separator or whitespace, and the space
separators. A zero-width space is not one of them.
-/

namespace Handbook.Unicode

/-- The code points of blank characters. -/
def blankBlocks : Blocks :=
  [(9, 13), (28, 32), (133, 133), (160, 160), (5760, 5760), (8192, 8202), (8232, 8233),
   (8239, 8239), (8287, 8287), (12288, 12288)]

def isBlank (c : Char) : Bool := blankBlocks.has c

/-- Every character that is whitespace in ASCII is blank. -/
theorem isBlank_of_isWhitespace {c : Char} (white : c.isWhitespace = true) : isBlank c = true := by
  simp only [Char.isWhitespace, Bool.or_eq_true, decide_eq_true_eq] at white
  rcases white with ((same | same) | same) | same <;> subst same <;> decide

end Handbook.Unicode
