import Handbook.Template.Block

/-!
Quiet text: no tag can begin in it, whatever is written behind it. A tag begins with two braces and one
of the key characters, so single braces are quiet, and so are two braces before a blank or a quote.
No recogniser sees anything in quiet text.
-/

namespace Handbook.Template

open Text Unicode

variable {α : Type}

/-- The characters that make a tag of two opening braces. -/
def isKey (c : Char) : Bool := isWord c || c = '>' || c = '#' || c = '/' || c = '@'

def opensTag : List Char → Bool
  | c :: d :: e :: _ => c = '\x7b' && d = '\x7b' && isKey e
  | _ => false

/-- Whether a tag may begin with the text, given that more may be written behind it. -/
def mayOpen : List Char → Bool
  | [] => false
  | [c] => c = '\x7b'
  | [c, d] => c = '\x7b' && d = '\x7b'
  | c :: d :: e :: _ => c = '\x7b' && d = '\x7b' && isKey e

def quiet : List Char → Bool
  | [] => true
  | c :: rest => !mayOpen (c :: rest) && quiet rest

/-- The recogniser sees nothing in the text, whatever is written behind it. -/
def Skips (recognise : Recogniser α) : List Char → Prop
  | [] => True
  | c :: rest => (∀ later, recognise (c :: rest ++ later) = none) ∧ Skips recognise rest

/-- The recogniser sees nothing where no tag begins. -/
def Keyed (recognise : Recogniser α) : Prop :=
  ∀ text content, recognise text = some content → opensTag text = true

theorem opensTag_append {text : List Char} (closed : mayOpen text = false) (solid : text ≠ [])
    (later : List Char) : opensTag (text ++ later) = false := by
  match text, solid with
  | [c], _ =>
    simp only [mayOpen, decide_eq_false_iff_not] at closed
    match later with
    | [] => rfl
    | [d] => rfl
    | d :: e :: rest => simp [opensTag, closed]
  | [c, d], _ =>
    simp only [mayOpen, Bool.and_eq_false_iff, decide_eq_false_iff_not] at closed
    match later with
    | [] => rfl
    | e :: rest => rcases closed with first | second <;> simp [opensTag, *]
  | c :: d :: e :: rest, _ => exact closed

theorem skips_of_quiet {recognise : Recogniser α} (keyed : Keyed recognise) {text : List Char}
    (silent : quiet text = true) : Skips recognise text := by
  induction text with
  | nil => trivial
  | cons c rest ih =>
    simp only [quiet, Bool.and_eq_true, Bool.not_eq_true'] at silent
    refine ⟨fun later => ?_, ih silent.2⟩
    rw [Option.eq_none_iff_forall_ne_some]
    intro content seen
    have opened := keyed _ content seen
    rw [opensTag_append silent.1 (by simp)] at opened
    exact Bool.false_ne_true opened

theorem skips_append {recognise : Recogniser α} {first later : List Char}
    (skips : Skips recognise first) (skips' : Skips recognise later) :
    Skips recognise (first ++ later) := by
  induction first with
  | nil => exact skips'
  | cons c rest ih => exact ⟨fun text => by simpa using skips.1 (later ++ text), ih skips.2⟩

theorem mayOpen_cons_of_ne {c : Char} (apart : c ≠ '\x7b') (rest : List Char) :
    mayOpen (c :: rest) = false := by
  match rest with
  | [] => simp [mayOpen, apart]
  | [d] => simp [mayOpen, apart]
  | d :: e :: rest => simp [mayOpen, apart]

/-- Text without opening braces is quiet. -/
theorem quiet_of_no_brace {text : List Char} (plain : '\x7b' ∉ text) : quiet text = true := by
  induction text with
  | nil => rfl
  | cons c rest ih =>
    simp only [List.mem_cons, not_or] at plain
    simp only [quiet, mayOpen_cons_of_ne (Ne.symm plain.1), ih plain.2, Bool.not_false, Bool.and_self]

/-- One brace before text without braces is quiet. -/
theorem quiet_brace_cons {c : Char} {rest : List Char} (plain : '\x7b' ∉ c :: rest) :
    quiet ('\x7b' :: c :: rest) = true := by
  have apart : c ≠ '\x7b' := by rintro rfl; simp at plain
  have closed : mayOpen ('\x7b' :: c :: rest) = false := by
    cases rest with
    | nil => simp [mayOpen, apart]
    | cons d rest => simp [mayOpen, apart]
  rw [quiet, closed, quiet_of_no_brace plain]
  rfl

/-! What the recognisers skip, cutting leaves as it is. -/

theorem cut_skip {m : Type → Type} [Monad m] [LawfulMonad m] {recognise : Recogniser α}
    (write : α → List Char → m (List Char)) {text : List Char} (skips : Skips recognise text)
    (later : List Char) :
    fill write (cut recognise (text ++ later))
      = (text ++ ·) <$> fill write (cut recognise later) := by
  induction text with
  | nil => simp
  | cons c rest ih =>
    have plain : recognise (c :: (rest ++ later)) = none := skips.1 later
    rw [List.cons_append, cut_cons_of_none plain, fill_addPlain, ih skips.2]
    simp

theorem cut_tag {m : Type → Type} [Monad m] {recognise : Recogniser α}
    (write : α → List Char → m (List Char)) {text later : List Char} {content : α}
    (seen : recognise (text ++ later) = some (content, text.length)) (solid : text ≠ []) :
    fill write (cut recognise (text ++ later)) = do
      let written ← write content text
      let rest ← fill write (cut recognise later)
      return written ++ rest := by
  obtain ⟨c, text, rfl⟩ := List.exists_cons_of_ne_nil solid
  have found : recognise (c :: (text ++ later)) = some (content, text.length + 1) := seen
  rw [List.cons_append, cut_of_some found]
  simp [fill]

/-- Nothing but what is skipped: the pass leaves the text as it is. -/
theorem fill_skip {m : Type → Type} [Monad m] [LawfulMonad m] {recognise : Recogniser α}
    (write : α → List Char → m (List Char)) {text : List Char} (skips : Skips recognise text) :
    fill write (cut recognise text) = pure text := by
  have alone := cut_skip write skips []
  rw [List.append_nil, cut_nil, fill, map_pure, List.append_nil] at alone
  exact alone

/-- Nothing but one tag: the pass writes the tag. -/
theorem fill_tag {m : Type → Type} [Monad m] [LawfulMonad m] {recognise : Recogniser α}
    (write : α → List Char → m (List Char)) {text : List Char} {content : α}
    (takes : ∀ later, recognise (text ++ later) = some (content, text.length)) (solid : text ≠ []) :
    fill write (cut recognise text) = write content text := by
  have alone := cut_tag write (takes []) solid
  simp only [List.append_nil, cut_nil, fill, pure_bind, bind_pure] at alone
  exact alone

/-! Every tag begins with a key character. -/

theorem word_of_name_char {c : Char} (name : isNameChar c = true) : isWord c = true := by
  rw [isNameChar] at name
  delta Char.isAlphanum Char.isAlpha Char.isUpper Char.isLower Char.isDigit at name
  simp only [Bool.or_eq_true, Bool.and_eq_true, decide_eq_true_eq, ge_iff_le, UInt32.le_iff_toNat_le] at name
  rw [isWord, Blocks.has_iff]
  rcases name with ((upper | lower) | digit) | rfl
  · exact ⟨(65, 90), by decide, upper⟩
  · exact ⟨(97, 122), by decide, lower⟩
  · exact ⟨(48, 57), by decide, digit⟩
  · exact ⟨(95, 95), by decide, by decide⟩

theorem name_char_of_start {c : Char} (start : isNameStart c = true) : isNameChar c = true := by
  simp only [isNameStart, isNameChar, Bool.or_eq_true, decide_eq_true_eq] at start ⊢
  rcases start with letter | underscore
  · exact Or.inl (congrArg (· || c.isDigit) letter)
  · exact Or.inr underscore

theorem not_word_of_blank {c : Char} (blank : isBlank c = true) : isWord c = false := by
  rw [isBlank, Blocks.has_iff] at blank
  obtain ⟨block, member, low, high⟩ := blank
  rw [Bool.eq_false_iff]
  intro word
  rw [isWord, Blocks.has_iff] at word
  obtain ⟨other, member', low', high'⟩ := word
  have apart : ∀ a ∈ blankBlocks, ∀ b ∈ wordBlocks, a.2 < b.1 ∨ b.2 < a.1 := by decide +kernel
  have := apart block member other member'
  omega

theorem not_blank_of_word {c : Char} (word : isWord c = true) : isBlank c = false := by
  rw [Bool.eq_false_iff]
  intro blank
  rw [not_word_of_blank blank] at word
  exact Bool.noConfusion word

theorem head_of_variable {path : List Char} (valid : isVariablePath path = true) :
    ∃ c rest, path = c :: rest ∧ (c = '@' ∨ isWord c = true) := by
  cases path with
  | nil => simp [isVariablePath, splitDots] at valid
  | cons c rest =>
    refine ⟨c, rest, rfl, ?_⟩
    by_cases mark : c = '@'
    · exact Or.inl mark
    · by_cases dot : c = '.'
      · subst dot
        simp [isVariablePath, splitDots] at valid
      · right
        apply word_of_name_char
        apply name_char_of_start
        simp only [isVariablePath, List.head?_cons, Option.some.injEq, mark, if_false, splitDots,
          dot] at valid
        cases split : splitDots rest with
        | nil => simp [split] at valid; exact valid.1
        | cons first more => simp [split] at valid; exact valid.1.1

end Handbook.Template
