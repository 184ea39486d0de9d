import Handbook.Answers.Verdict
import Handbook.Proofs.Answers.Reading

/-!
Reading raw answers and judging them. Answers that cannot be read are always judged invalid. Main statement of this
module: reading refuses exactly what is judged invalid, except for answers that can be read, yet do not name the kind
of project under its key or break a rule between answers.
-/

namespace Handbook

variable {entries : Table Value}

/-- An answer is given under the very key, and it is not null. -/
def Given (entries : Table Value) (key : String) : Prop := ∃ value, entries.get? key = some value ∧ value ≠ .null

/-- The answers cannot be read. -/
def Refused (entries : Table Value) : Prop := ∃ found, Answers.ofEntries entries = .error found

/-- The answers can be read, but the kind of project is not named under its key, or a rule is broken. -/
def Overlooked (entries : Table Value) : Prop := ∃ answers, Answers.ofEntries entries = .ok answers ∧
  (¬ Given entries "projectType" ∨ ∃ rule, Rule.isBroken answers rule = true)

theorem Rule.mem_all (rule : Rule) : rule ∈ all := by
  cases rule <;> decide

namespace Verdict

theorem missing_nil_iff : missing entries = [] ↔ Given entries "projectType" := by
  rw [missing, List.map_eq_nil_iff, required, List.filter_singleton, Given]
  cases entries.get? "projectType" with
  | none => simp
  | some value => cases value <;> simp

theorem broken_nil_iff {answers : Answers} :
    (Rule.all.filter (Rule.isBroken answers)).map Violation.rule = [] ↔ ∀ rule, Rule.isBroken answers rule = false := by
  rw [List.map_eq_nil_iff, List.filter_eq_nil_iff]
  constructor
  · intro kept rule
    simpa using kept rule rule.mem_all
  · intro kept rule _
    simp [kept rule]

theorem valid_iff {answers : Answers} (accepted : Answers.ofEntries entries = .ok answers) :
    (ofEntries entries).isValid = true ↔ Given entries "projectType" ∧ ∀ rule, Rule.isBroken answers rule = false := by
  rw [isValid, ofEntries, accepted, List.isEmpty_iff, List.append_eq_nil_iff, missing_nil_iff, broken_nil_iff]

/-- What cannot be read is judged invalid. -/
theorem invalid_of_refused (refused : Refused entries) : (ofEntries entries).isValid = false := by
  obtain ⟨found, refused⟩ := refused
  have told : found ≠ [] := by
    rintro rfl
    rw [Answers.ofEntries, Answers.ofRegular] at refused
    split at refused
    · cases refused
    · rename_i nonempty
      exact nonempty (Except.error.inj refused)
  rw [isValid, ofEntries, refused]
  simp [told]

end Verdict

theorem invalid_of_overlooked (overlooked : Overlooked entries) : (Verdict.ofEntries entries).isValid = false := by
  obtain ⟨answers, accepted, missed⟩ := overlooked
  rw [← Bool.not_eq_true, Verdict.valid_iff accepted]
  rintro ⟨given, kept⟩
  rcases missed with ungiven | ⟨rule, broken⟩
  · exact ungiven given
  · rw [kept rule] at broken
    cases broken

theorem overlooked_of_invalid {answers : Answers} (accepted : Answers.ofEntries entries = .ok answers)
    (invalid : (Verdict.ofEntries entries).isValid = false) : Overlooked entries := by
  refine ⟨answers, accepted, ?_⟩
  rw [← Bool.not_eq_true, Verdict.valid_iff accepted] at invalid
  by_cases given : Given entries "projectType"
  · right
    by_contra kept
    refine invalid ⟨given, fun rule => ?_⟩
    cases broken : Rule.isBroken answers rule with
    | true => exact (kept ⟨rule, broken⟩).elim
    | false => rfl
  · exact .inl given

/-- Answers are refused exactly if some field is answered by a value that does not fit it; they are invalid exactly if
they are refused or overlooked; and so the two agree exactly where nothing is overlooked. -/
theorem refused_iff_invalid_iff (entries : Table Value) :
    (Refused entries ↔ Answers.Misfitting (Answers.regular entries)) ∧
      ((Verdict.ofEntries entries).isValid = false ↔ Refused entries ∨ Overlooked entries) ∧
      ((Refused entries ↔ (Verdict.ofEntries entries).isValid = false) ↔ ¬ Overlooked entries) := by
  have whole : (Verdict.ofEntries entries).isValid = false ↔ Refused entries ∨ Overlooked entries := by
    constructor
    · intro invalid
      cases outcome : Answers.ofEntries entries with
      | ok answers => exact .inr (overlooked_of_invalid outcome invalid)
      | error found => exact .inl ⟨found, outcome⟩
    · rintro (refused | overlooked)
      · exact Verdict.invalid_of_refused refused
      · exact invalid_of_overlooked overlooked
  have apart : Refused entries → ¬ Overlooked entries := by
    rintro ⟨found, refused⟩ ⟨answers, accepted, _⟩
    cases refused.symm.trans accepted
  refine ⟨Answers.refused_iff, whole, ?_⟩
  rw [whole]
  constructor
  · intro agree overlooked
    exact apart (agree.2 (.inr overlooked)) overlooked
  · intro noticed
    exact ⟨.inl, fun either => either.resolve_right noticed⟩

/-- The empty record is read, and it is judged invalid. -/
theorem empty_record_overlooked : ¬ (Refused [] ↔ (Verdict.ofEntries []).isValid = false) := by
  intro agree
  obtain ⟨found, refused⟩ := agree.2 (by decide)
  have accepted : Answers.ofEntries [] = .ok ⟨Answers.valueOf [], []⟩ := rfl
  cases refused.symm.trans accepted

end Handbook
