import Handbook.Proofs.Template.Inherited
import Handbook.Proofs.Template.Stray

/-!
Numerals that are refused. A run of digits is refused only if it has a stray digit or is too long. Look-ups and the
arguments of helpers are refused for such a run only.
-/

namespace Handbook.Template

open Text Unicode

variable {text text' : List Char} {context : Table Value} {fault : Numeral.Fault}

/-- Why a run of digits is refused: it has a stray digit, or it is too long. -/
def Refused (digits : List Char) : Numeral.Fault → Prop
  | .malformed text => text = digits ∧ ∃ c ∈ digits, isStray c = true
  | .tooLong count => Numeral.limit < count ∧ count ≤ digits.length

/-- A run of digits in the text is refused. -/
def Refuses (text : List Char) (fault : Numeral.Fault) : Prop :=
  ∃ digits, digits.Sublist text ∧ digits.all isDigit = true ∧ Refused digits fault

theorem refuses_of_sublist (within : text.Sublist text') (refuses : Refuses text fault) :
    Refuses text' fault := by
  obtain ⟨digits, inside, rest⟩ := refuses
  exact ⟨digits, inside.trans within, rest⟩

theorem length_leading_le (text : List Char) : (Numeral.leadingDigits text).length ≤ text.length := by
  induction text with
  | nil => exact Nat.le_refl 0
  | cons c rest ih =>
    rw [Numeral.leadingDigits]
    split
    · exact Nat.succ_le_succ ih
    · exact Nat.zero_le _

theorem refused_of_read {digits : List Char} (all : digits.all isDigit = true)
    (solid : digits ≠ []) (lost : Numeral.read digits = .error fault) : Refused digits fault := by
  have shorter := length_leading_le digits
  unfold Numeral.read at lost
  dsimp only at lost
  split at lost
  · rename_i long
    cases lost
    exact ⟨long, shorter⟩
  · split at lost
    · cases lost
    · rename_i partly
      cases lost
      refine ⟨rfl, ?_⟩
      by_contra none
      apply partly
      refine ⟨Numeral.length_leadingDigits_of_decimal ?_, solid⟩
      intro c member
      by_contra odd
      apply none
      refine ⟨c, member, ?_⟩
      rw [isStray, List.all_eq_true.1 all c member, Bool.not_eq_true _ |>.mp odd]
      rfl

/-! Look-ups. -/

theorem step_refuses {value : Value} {part : List Char} (lost : step value part = .error fault) :
    Refuses part fault := by
  unfold step at lost
  split at lost
  · cases lost
  · split at lost
    · rename_i index
      simp only [isIndex, Bool.and_eq_true, decide_eq_true_eq] at index
      cases read : Numeral.read part with
      | error other =>
        rw [read] at lost
        cases lost
        exact ⟨part, List.Sublist.refl _, index.2, refused_of_read index.2 index.1 read⟩
      | ok place =>
        rw [read] at lost
        cases lost
    · cases lost
  · cases lost

theorem follow_refuses {parts : List (List Char)} {path : List Char} (within : ∀ part ∈ parts, part.Sublist path)
    {value : Value} (lost : follow value parts = .error fault) : Refuses path fault := by
  induction parts generalizing value with
  | nil => cases lost
  | cons part rest ih =>
    rw [follow] at lost
    cases next : step value part with
    | error other =>
      rw [next] at lost
      cases lost
      exact refuses_of_sublist (within part (List.mem_cons_self ..)) (step_refuses next)
    | ok middle =>
      rw [next] at lost
      exact ih (fun other member => within other (List.mem_cons_of_mem _ member)) lost

theorem split_dots_sublist (text : List Char) : ∀ part ∈ splitDots text, part.Sublist text := by
  induction text with
  | nil =>
    intro part member
    rw [List.mem_singleton.1 member]
  | cons c rest ih =>
    intro part member
    rw [splitDots] at member
    split at member
    · rcases List.mem_cons.1 member with rfl | later
      · exact List.nil_sublist _
      · exact (ih part later).cons c
    · split at member
      · rw [List.mem_singleton.1 member]
        exact (List.nil_sublist rest).cons_cons c
      · rename_i first more same
        rw [same] at ih
        rcases List.mem_cons.1 member with rfl | later
        · exact (ih first (List.mem_cons_self ..)).cons_cons c
        · exact (ih part (List.mem_cons_of_mem _ later)).cons c

theorem look_up_refuses {path : List Char} (lost : lookUp context path = .error fault) : Refuses path fault := by
  unfold lookUp at lost
  split at lost
  · cases lost
  · exact follow_refuses (split_dots_sublist path) lost

/-! Arguments. -/

theorem token_refuses {token : Token} (stands : Stands text token) (lost : token.value context = .error fault) :
    Refuses text fault := by
  cases token with
  | quoted text => cases lost
  | bare digits =>
    rw [Token.value] at lost
    split at lost
    · exact refuses_of_sublist stands.1 (look_up_refuses lost)
    · split at lost
      · rename_i decimal
        have all : digits.all isDigit = true := by
          rw [List.all_eq_true] at decimal ⊢
          exact fun c member => isDigit_of_isDecimal (decimal c member)
        have solid : digits ≠ [] := by
          rintro rfl
          exact stands.2 rfl
        cases read : Numeral.read digits with
        | ok number =>
          rw [read] at lost
          cases lost
        | error other =>
          rw [read] at lost
          cases lost
          exact ⟨digits, stands.1, all, refused_of_read all solid read⟩
      · cases lost

theorem arguments_refuse (lost : arguments context text = .error fault) : Refuses text fault := by
  obtain ⟨token, member, lost⟩ := lost_of_none lost
  exact token_refuses (tokens_stand text [] none token member) lost

end Handbook.Template
