/-!
Sets of characters given as blocks of consecutive code points. The property tables beside this module
list their blocks in ascending order, so the common characters are found first.
-/

namespace Handbook.Unicode

/-- Blocks of code points; each pair holds the first and the last code point of its block. -/
abbrev Blocks := List (Nat × Nat)

def Blocks.has (blocks : Blocks) (c : Char) : Bool :=
  blocks.any fun block => block.1 ≤ c.toNat && c.toNat ≤ block.2

theorem Blocks.has_iff {blocks : Blocks} {c : Char} :
    blocks.has c = true ↔ ∃ block ∈ blocks, block.1 ≤ c.toNat ∧ c.toNat ≤ block.2 := by
  simp [Blocks.has]

end Handbook.Unicode
