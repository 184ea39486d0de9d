/-!
Cutting a text at its tags. A recogniser looks at the start of a text and says which tag stands there and
how many characters it takes. The leftmost tag counts, tags do not overlap, and what lies between them is
kept as it is.
-/

namespace Handbook.Template

variable {α : Type}

/-- A stretch of plain text, or a tag with its content and the characters it was written with. -/
inductive Piece (α : Type) where
  | plain (text : List Char)
  | tag (content : α) (source : List Char)

/-- Says which tag stands at the start of a text and how many characters it takes. -/
abbrev Recogniser (α : Type) := List Char → Option (α × Nat)

/-- The pieces with one more character of plain text in front. -/
def addPlain (c : Char) : List (Piece α) → List (Piece α)
  | .plain text :: rest => .plain (c :: text) :: rest
  | pieces => .plain [c] :: pieces

/-- The pieces of what is left of a text after `skip` characters. -/
def cutAfter (recognise : Recogniser α) : Nat → List Char → List (Piece α)
  | _, [] => []
  | skip + 1, _ :: rest => cutAfter recognise skip rest
  | 0, c :: rest =>
    match recognise (c :: rest) with
    | some (content, size) =>
      .tag content ((c :: rest).take size) :: cutAfter recognise (size - 1) rest
    | none => addPlain c (cutAfter recognise 0 rest)

def cut (recognise : Recogniser α) (text : List Char) : List (Piece α) := cutAfter recognise 0 text

/-- The text that the pieces were cut from. -/
def uncut : List (Piece α) → List Char
  | [] => []
  | .plain text :: rest => text ++ uncut rest
  | .tag _ written :: rest => written ++ uncut rest

/-- The text in which every tag is replaced by what `write` makes of it, from left to right. -/
def fill {m : Type → Type} [Monad m] (write : α → List Char → m (List Char)) :
    List (Piece α) → m (List Char)
  | [] => pure []
  | .plain text :: rest => do
    let later ← fill write rest
    return text ++ later
  | .tag content written :: rest => do
    let text ← write content written
    let later ← fill write rest
    return text ++ later

theorem cutAfter_eq_cut_drop (recognise : Recogniser α) (skip : Nat) (text : List Char) :
    cutAfter recognise skip text = cut recognise (text.drop skip) := by
  induction skip generalizing text with
  | zero => rfl
  | succ skip ih => cases text with
    | nil => simp [cutAfter, cut]
    | cons c rest => simpa [cutAfter] using ih rest

@[simp]
theorem cut_nil (recognise : Recogniser α) : cut recognise [] = [] := rfl

theorem cut_cons_of_none {recognise : Recogniser α} {c : Char} {rest : List Char}
    (plain : recognise (c :: rest) = none) :
    cut recognise (c :: rest) = addPlain c (cut recognise rest) := by
  simp [cut, cutAfter, plain]

theorem cut_of_some {recognise : Recogniser α} {c : Char} {rest : List Char} {content : α} {size : Nat}
    (found : recognise (c :: rest) = some (content, size + 1)) :
    cut recognise (c :: rest)
      = .tag content (c :: rest.take size) :: cut recognise (rest.drop size) := by
  rw [cut, cutAfter, found, ← cutAfter_eq_cut_drop]
  simp

theorem fill_addPlain {m : Type → Type} [Monad m] [LawfulMonad m]
    (write : α → List Char → m (List Char)) (c : Char) (pieces : List (Piece α)) :
    fill write (addPlain c pieces) = (c :: ·) <$> fill write pieces := by
  cases pieces with
  | nil => simp [addPlain, fill]
  | cons piece rest => cases piece <;> simp [addPlain, fill]

theorem uncut_addPlain (c : Char) (pieces : List (Piece α)) :
    uncut (addPlain c pieces) = c :: uncut pieces := by
  cases pieces with
  | nil => rfl
  | cons piece rest => cases piece <;> rfl

/-- Nothing is lost: the pieces of a text make up the text, if no tag is empty. -/
theorem uncut_cut {recognise : Recogniser α}
    (solid : ∀ text content size, recognise text = some (content, size) → size ≠ 0)
    (text : List Char) : uncut (cut recognise text) = text := by
  induction size : text.length using Nat.strongRecOn generalizing text with
  | ind length ih =>
    subst size
    cases text with
    | nil => rfl
    | cons c rest =>
      cases found : recognise (c :: rest) with
      | none =>
        rw [cut_cons_of_none found, uncut_addPlain, ih rest.length (by simp) rest rfl]
      | some tag =>
        obtain ⟨content, size⟩ := tag
        obtain ⟨size, rfl⟩ := Nat.exists_eq_succ_of_ne_zero (solid _ _ _ found)
        have shorter : (rest.drop size).length < (c :: rest).length := by
          rw [List.length_drop, List.length_cons]
          omega
        have later := ih _ shorter _ rfl
        simp [cut_of_some found, uncut, later]

end Handbook.Template
