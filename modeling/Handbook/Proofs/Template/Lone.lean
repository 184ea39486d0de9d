import Handbook.Proofs.Template.Quiet
import Handbook.Text.Case
import Handbook.Text.Quoted
import Mathlib.Data.List.Forall2
import Mathlib.Data.List.Infix
import Mathlib.Tactic.SplitIfs

/-!
Text in which no two opening braces stand side by side and none stands at the end. It is quiet, and unlike
quiet text it stays so when it is quoted and when its case is changed: a combining mark may become a letter,
but no character becomes a brace. The bytes of a text tell whether it is such.
-/

namespace Handbook.Template

open Text Unicode

def lone : List Char → Bool
  | [] => true
  | [c] => c ≠ '\x7b'
  | c :: d :: rest => (c ≠ '\x7b' || d ≠ '\x7b') && lone (d :: rest)

theorem quiet_of_lone {text : List Char} (single : lone text = true) : quiet text = true := by
  induction text with
  | nil => rfl
  | cons c rest ih =>
    cases rest with
    | nil =>
      simp only [lone, decide_eq_true_eq] at single
      simp [quiet, mayOpen, single]
    | cons d rest =>
      simp only [lone, Bool.and_eq_true, Bool.or_eq_true, decide_eq_true_eq] at single
      have closed : mayOpen (c :: d :: rest) = false := by
        cases rest with
        | nil => rcases single.1 with first | second <;> simp [mayOpen, *]
        | cons e rest => rcases single.1 with first | second <;> simp [mayOpen, *]
      rw [quiet, closed, ih single.2]
      rfl

theorem lone_of_no_brace {text : List Char} (plain : '\x7b' ∉ text) : lone text = true := by
  induction text with
  | nil => rfl
  | cons c rest ih =>
    simp only [List.mem_cons, not_or] at plain
    cases rest with
    | nil => simp [lone, Ne.symm plain.1]
    | cons d rest => simp [lone, Ne.symm plain.1, ih plain.2]

theorem lone_append {first later : List Char} (single : lone first = true)
    (single' : lone later = true) : lone (first ++ later) = true := by
  induction first with
  | nil => exact single'
  | cons c rest ih =>
    cases rest with
    | nil =>
      simp only [lone, decide_eq_true_eq] at single
      cases later with
      | nil => simp [lone, single]
      | cons d later => simp [lone, single, single']
    | cons d rest =>
      simp only [lone, Bool.and_eq_true, List.cons_append] at single ih ⊢
      exact ⟨single.1, ih single.2⟩

theorem lone_tail {c : Char} {rest : List Char} (single : lone (c :: rest) = true) : lone rest = true := by
  cases rest with
  | nil => rfl
  | cons d rest =>
    simp only [lone, Bool.and_eq_true] at single
    exact single.2

theorem not_infix_of_lone {text : List Char} (single : lone text = true) : ¬ ['\x7b', '\x7b'] <:+: text := by
  rintro ⟨before, after, rfl⟩
  induction before with
  | nil => exact absurd single (by simp [lone])
  | cons c before ih => exact ih (lone_tail single)

theorem lone_brace_cons {c : Char} {rest : List Char} (apart : c ≠ '\x7b')
    (single : lone (c :: rest) = true) : lone ('\x7b' :: c :: rest) = true := by
  simp [lone, apart, single]

theorem lone_brace_append {c : Char} {text : List Char} (head : text.head? = some c) (apart : c ≠ '\x7b')
    (single : lone text = true) : lone ("\x7b".toList ++ text) = true := by
  cases text with
  | nil => exact absurd head (by simp)
  | cons d rest =>
    rw [List.head?_cons, Option.some.injEq] at head
    subst head
    exact lone_brace_cons apart single

/-- A piece that a character may be replaced by: a brace stays, and no other character becomes one. -/
def Tame (c : Char) (piece : List Char) : Prop :=
  piece ≠ [] ∧ ('\x7b' ∉ piece ∨ c = '\x7b' ∧ piece = ['\x7b'])

theorem lone_flatten {text : List Char} {pieces : List (List Char)}
    (tame : List.Forall₂ Tame text pieces) (single : lone text = true) : lone pieces.flatten = true := by
  induction tame with
  | nil => rfl
  | @cons c piece rest pieces first later ih =>
    obtain ⟨solid, plain | ⟨rfl, rfl⟩⟩ := first
    · rw [List.flatten_cons]
      refine lone_append (lone_of_no_brace plain) ?_
      cases later with
      | nil => rfl
      | cons second later => exact ih (by simp only [lone, Bool.and_eq_true] at single; exact single.2)
    · cases later with
      | nil => simp [lone] at single
      | @cons d piece rest pieces second later =>
        simp only [lone, Bool.and_eq_true, Bool.or_eq_true, decide_eq_true_eq, ne_eq, not_true_eq_false,
          false_or] at single
        have inner := ih single.2
        obtain ⟨solid', plain | ⟨rfl, _⟩⟩ := second
        · obtain ⟨e, more, rfl⟩ := List.exists_cons_of_ne_nil solid'
          simp only [List.mem_cons, not_or] at plain
          exact lone_brace_cons (Ne.symm plain.1) inner
        · exact absurd rfl single.1

/-! Quoting and the change of case. -/

theorem tame_self (c : Char) : Tame c [c] := by
  refine ⟨by simp, ?_⟩
  by_cases brace : c = '\x7b'
  · exact Or.inr ⟨brace, by rw [brace]⟩
  · exact Or.inl (by simpa using Ne.symm brace)

theorem lone_flat {f : Char → List Char} (tame : ∀ c, Tame c (f c)) {text : List Char}
    (single : lone text = true) : lone (text.flatMap f) = true := by
  have pieces : List.Forall₂ Tame text (text.map f) := by
    rw [List.forall₂_map_right_iff, List.forall₂_same]
    exact fun c _ => tame c
  exact lone_flatten pieces single

theorem no_brace_hex (width n : Nat) : '\x7b' ∉ hexDigits width n := by
  induction width generalizing n with
  | zero => simp [hexDigits]
  | succ width ih =>
    have digit : ∀ d < 16, Nat.digitChar d ≠ '\x7b' := by decide
    have last := digit (n % 16) (Nat.mod_lt n (by decide))
    simp [hexDigits, ih, Ne.symm last]

theorem tame_quote (mark c : Char) (other : mark ≠ '\x7b') : Tame c (quoteChar mark c) := by
  by_cases brace : c = '\x7b'
  · subst brace
    have printable : isPrintable '\x7b' = true := by decide
    have kept : quoteChar mark '\x7b' = ['\x7b'] := by
      simp [quoteChar, printable, Ne.symm other]
    rw [kept]
    exact tame_self _
  · unfold quoteChar escapeCode
    split_ifs
    · exact ⟨by simp, Or.inl (by simp [Ne.symm brace])⟩
    · exact ⟨by simp, Or.inl (by decide)⟩
    · exact ⟨by simp, Or.inl (by decide)⟩
    · exact ⟨by simp, Or.inl (by decide)⟩
    · exact tame_self c
    · exact ⟨by simp, Or.inl (by simp [no_brace_hex])⟩
    · exact ⟨by simp, Or.inl (by simp [no_brace_hex])⟩
    · exact ⟨by simp, Or.inl (by simp [no_brace_hex])⟩

theorem quote_mark_ne (text : List Char) : quoteMark text ≠ '\x7b' := by
  unfold quoteMark
  split <;> decide

theorem lone_quoted {text : String} (single : lone text.toList = true) :
    lone (quotedString text).toList = true := by
  have mark := quote_mark_ne text.toList
  rw [quotedString, String.toList_ofList, quoted]
  have inner := lone_flat (fun c => tame_quote (quoteMark text.toList) c mark) single
  have edge : lone [quoteMark text.toList] = true := lone_of_no_brace (by simpa using Ne.symm mark)
  exact lone_append (lone_append edge inner) edge

theorem char_of_brace {code : Nat} (brace : Char.ofNat code = '\x7b') : code = 123 := by
  rcases char_of_code code with same | null
  · rw [← same, brace]
    rfl
  · rw [null] at brace
    exact absurd brace (by decide)

theorem move_ne {row : CaseRow} {code moved : Nat}
    (tame : 123 < row.first + row.distance ∨ row.last + row.distance < 123)
    (moves : row.move? code = some moved) : moved ≠ 123 := by
  unfold CaseRow.move? at moves
  split at moves
  · rename_i inside
    rw [Option.some.injEq] at moves
    omega
  · exact absurd moves (by simp)

theorem tame_change {expansions : List (Nat × List Nat)} {rows : List CaseRow}
    (solid : ∀ entry ∈ expansions, entry.2 ≠ [] ∧ 123 ∉ entry.2)
    (apart : ∀ row ∈ rows, 123 < row.first + row.distance ∨ row.last + row.distance < 123)
    (kept : changeCase expansions rows '\x7b' = ['\x7b']) (c : Char) :
    Tame c (changeCase expansions rows c) := by
  by_cases brace : c = '\x7b'
  · subst brace
    rw [kept]
    exact tame_self _
  · unfold changeCase
    cases found : expansions.lookup c.toNat with
    | some codes =>
      have member : (c.toNat, codes) ∈ expansions := by
        obtain ⟨before, after, rfl, _⟩ := List.lookup_eq_some_iff.1 found
        simp
      obtain ⟨nonempty, none⟩ := solid _ member
      refine ⟨by simpa using nonempty, Or.inl ?_⟩
      intro inside
      obtain ⟨code, member, same⟩ := List.mem_map.1 inside
      exact none (char_of_brace same ▸ member)
    | none =>
      refine ⟨by simp, Or.inl ?_⟩
      cases moved : rows.findSome? (·.move? c.toNat) with
      | none => simpa using Ne.symm brace
      | some code =>
        obtain ⟨row, member, moves⟩ := List.exists_of_findSome?_eq_some moved
        have other := move_ne (apart row member) moves
        simp only [Option.map_some, Option.getD_some, List.mem_singleton]
        exact fun same => other (char_of_brace same.symm)

theorem lone_upper {text : List Char} (single : lone text = true) : lone (upper text) = true := by
  refine lone_flat (tame_change ?_ ?_ ?_) single
  · decide
  · decide +kernel
  · decide

theorem lone_lower {text : List Char} (single : lone text = true) : lone (lower text) = true := by
  have pieces : ∀ before text, ∃ pieces, List.Forall₂ Tame text pieces ∧
      lowerAfter before text = pieces.flatten := by
    intro before text
    induction text generalizing before with
    | nil => exact ⟨[], .nil, rfl⟩
    | cons c rest ih =>
      obtain ⟨later, tame, same⟩ := ih (c :: before)
      refine ⟨_ :: later, .cons ?_ tame, by rw [lowerAfter, same, List.flatten_cons]⟩
      split
      · refine ⟨by simp, Or.inl ?_⟩
        split <;> decide
      · exact tame_change (by decide +kernel) (by decide +kernel) (by decide +kernel) c
  obtain ⟨pieces, tame, same⟩ := pieces [] text
  rw [lower, same]
  exact lone_flatten tame single

/-! Texts by their bytes, which are quick to compute where the characters of a long text are not. -/

def bytesOf (text : String) : List UInt8 := text.toByteArray.data.toList

theorem bytes_of_eq (text : String) : bytesOf text = text.toList.flatMap String.utf8EncodeChar := by
  rw [bytesOf, ← String.utf8Encode_toList, List.utf8Encode, List.data_toByteArray]

theorem infix_bytes {part text : List Char} (inside : part <:+: text) :
    part.flatMap String.utf8EncodeChar <:+: text.flatMap String.utf8EncodeChar := by
  obtain ⟨before, after, rfl⟩ := inside
  rw [List.flatMap_append, List.flatMap_append]
  exact List.infix_append _ _ _

theorem lone_of_not_infix {text : List Char} (apart : ¬ ['\x7b', '\x7b'] <:+: text ++ ['\x7b']) :
    lone text = true := by
  induction text with
  | nil => rfl
  | cons c rest ih =>
    rw [List.cons_append, List.infix_cons_iff, not_or, List.cons_prefix_cons] at apart
    have inner := ih apart.2
    cases rest with
    | nil => exact decide_eq_true fun same => apart.1 ⟨same.symm, List.prefix_rfl⟩
    | cons d rest =>
      rw [List.cons_append, List.cons_prefix_cons] at apart
      rw [lone, inner, Bool.and_true, Bool.or_eq_true, decide_eq_true_eq, decide_eq_true_eq]
      by_contra! same
      exact apart.1 ⟨same.1.symm, same.2.symm, List.nil_prefix⟩

theorem lone_of_bytes {text : List Char}
    (apart : ¬ [123, 123] <:+: text.flatMap String.utf8EncodeChar ++ [123]) : lone text = true := by
  refine lone_of_not_infix fun inside => apart ?_
  have bytes := infix_bytes inside
  rwa [List.flatMap_append] at bytes

/-- Whether the bytes of a text show that it is quiet, or its characters do. -/
def calm (text : String) : Bool :=
  decide (¬ [123, 123] <:+: bytesOf text ++ [123]) || quiet text.toList

theorem quiet_of_calm {text : String} (calmly : calm text = true) : quiet text.toList = true := by
  rw [calm, Bool.or_eq_true, decide_eq_true_eq, bytes_of_eq] at calmly
  exact calmly.elim (fun apart => quiet_of_lone (lone_of_bytes apart)) id

end Handbook.Template
