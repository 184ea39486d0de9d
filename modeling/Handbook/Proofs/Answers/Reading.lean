import Handbook.Answers.Basic
import Handbook.Proofs.Table

/-!
Reading raw answers. A value that fits the shape of a field is read, and no other one is. Raw answers are accepted
if every field that is answered has an answer that fits; then each field carries what has been read, and the
entries that no field has taken are left.
-/

namespace Handbook

/-- The values that fit a shape. -/
inductive Fits : Shape → Value → Prop where
  | choice {names : List String} {name : String} (listed : name ∈ names) : Fits (.choice names) (.str name)
  | text (text : String) : Fits .text (.str text)
  | choices {names : List String} {items : List Value}
      (listed : ∀ item ∈ items, ∃ name ∈ names, item = .str name) : Fits (.choices names) (.list items)
  | truth (truth : Bool) : Fits .flag (.bool truth)
  | number {number : Int} (bit : number = 0 ∨ number = 1) : Fits .flag (.int number)
  | measure {number : Float} (bit : (number == 0) = true ∨ (number == 1) = true) : Fits .flag (.float number)
  | word {text : String} (listed : text.map Char.toLower ∈ flagWords.map Prod.fst) : Fits .flag (.str text)

/-! Single values. -/

theorem read_choice_iff {names : List String} {value : Value} :
    (∃ chosen, readChoice names value = .ok chosen) ↔ ∃ name ∈ names, value = .str name := by
  constructor
  · rintro ⟨chosen, read⟩
    cases value with
    | str text =>
      rw [readChoice] at read
      split at read
      · rename_i listed
        exact ⟨text, listed, rfl⟩
      · cases read
    | _ => cases read
  · rintro ⟨name, listed, rfl⟩
    exact ⟨⟨name, listed⟩, dif_pos listed⟩

theorem no_misfits_iff {names : List String} {items : List Value} (place : Nat) :
    (readItems (readChoice names) place items).2 = [] ↔ ∀ item ∈ items, ∃ name ∈ names, item = .str name := by
  induction items generalizing place with
  | nil => simp [readItems]
  | cons item rest ih =>
    rw [List.forall_mem_cons, ← read_choice_iff, ← ih (place + 1), readItems]
    cases readChoice names item with
    | ok chosen => simp
    | error misfit => simp

theorem read_flag_iff {value : Value} : (∃ truth, readFlag value = .ok truth) ↔ Fits .flag value := by
  constructor
  · rintro ⟨truth, read⟩
    cases value with
    | bool truth => exact .truth truth
    | int number =>
      rw [readFlag] at read
      split at read
      · exact .number (.inl ‹_›)
      · split at read
        · exact .number (.inr ‹_›)
        · split at read <;> cases read
    | float number =>
      rw [readFlag] at read
      split at read
      · exact .measure (.inl ‹_›)
      · split at read
        · exact .measure (.inr ‹_›)
        · split at read <;> cases read
    | str text =>
      rw [readFlag] at read
      split at read
      · rename_i found
        exact .word (List.mem_map.2 ⟨_, Table.mem_of_get? found, rfl⟩)
      · cases read
    | _ => cases read
  · intro fits
    cases fits with
    | truth truth => exact ⟨truth, rfl⟩
    | number bit =>
      rcases bit with rfl | rfl
      · exact ⟨false, rfl⟩
      · exact ⟨true, rfl⟩
    | @measure number bit =>
      rw [readFlag]
      by_cases zero : (number == 0) = true
      · exact ⟨false, if_pos zero⟩
      · rw [if_neg zero, if_pos (bit.resolve_left zero)]
        exact ⟨true, rfl⟩
    | word listed =>
      rw [← Table.keys, ← Table.has_iff, Table.has, Option.isSome_iff_exists] at listed
      obtain ⟨truth, found⟩ := listed
      rw [Table.get?] at found
      exact ⟨truth, by rw [readFlag, found]⟩

theorem mapped_iff {ε ε' α β : Type} {result : Except ε α} {write : α → β} {tell : ε → ε'} :
    (∃ value, (result.map write).mapError tell = .ok value) ↔ ∃ value, result = .ok value := by
  cases result with
  | ok value => exact ⟨fun _ => ⟨value, rfl⟩, fun _ => ⟨write value, rfl⟩⟩
  | error failure => constructor <;> rintro ⟨value, ⟨⟩⟩

theorem read_choices_iff {names : List String} {items : List Value} :
    (∃ carried, (Shape.choices names).read (.list items) = .ok carried) ↔
      (readItems (readChoice names) 0 items).2 = [] := by
  rw [Shape.read]
  split
  · rename_i fitting found
    rw [found]
    exact ⟨fun _ => rfl, fun _ => ⟨fitting, rfl⟩⟩
  · rename_i fitting misfits some found
    rw [found]
    constructor
    · rintro ⟨carried, ⟨⟩⟩
    · intro none
      exact absurd none some

/-- What is read are the values that fit. -/
theorem read_iff {shape : Shape} {value : Value} : (∃ carried, shape.read value = .ok carried) ↔ Fits shape value := by
  cases shape with
  | choice names =>
    rw [Shape.read, mapped_iff, read_choice_iff]
    constructor
    · rintro ⟨name, listed, rfl⟩
      exact .choice listed
    · intro fits
      cases fits with
      | choice listed => exact ⟨_, listed, rfl⟩
  | text =>
    rw [Shape.read, mapped_iff]
    constructor
    · rintro ⟨text, read⟩
      cases value with
      | str text => exact .text text
      | _ => cases read
    · intro fits
      cases fits with
      | text text => exact ⟨text, rfl⟩
  | choices names =>
    cases value with
    | list items =>
      rw [read_choices_iff, no_misfits_iff]
      constructor
      · exact .choices
      · intro fits
        cases fits with
        | choices listed => exact listed
    | _ =>
      constructor
      · rintro ⟨carried, ⟨⟩⟩
      · rintro ⟨⟩
  | flag =>
    rw [Shape.read, ← read_flag_iff]
    cases readFlag value with
    | ok truth => exact ⟨fun _ => ⟨truth, rfl⟩, fun _ => ⟨truth, rfl⟩⟩
    | error misfit => constructor <;> rintro ⟨truth, ⟨⟩⟩

/-- Whatever is not read is told to be a misfit. -/
theorem read_tells (shape : Shape) (value : Value) : shape.read value ≠ .error [] := by
  intro untold
  cases shape with
  | choice names =>
    rw [Shape.read] at untold
    cases read : readChoice names value <;> rw [read] at untold <;> cases untold
  | text =>
    rw [Shape.read] at untold
    cases read : readText value <;> rw [read] at untold <;> cases untold
  | flag =>
    rw [Shape.read] at untold
    cases read : readFlag value <;> rw [read] at untold <;> cases untold
  | choices names =>
    cases value with
    | list items =>
      rw [Shape.read] at untold
      split at untold
      · cases untold
      · rename_i fitting misfits some _
        rw [Except.error.injEq, List.map_eq_nil_iff] at untold
        exact some untold
    | _ => cases untold

namespace Answers

variable {entries : Table Value} {answers : Answers} {field : Field}

/-! Whole records. -/

theorem no_field_problems_iff : fieldProblems entries field = [] ↔ ∃ carried, readField entries field = .ok carried := by
  rw [fieldProblems]
  cases read : readField entries field with
  | ok carried => exact ⟨fun _ => ⟨carried, rfl⟩, fun _ => rfl⟩
  | error found =>
    refine ⟨?_, by rintro ⟨carried, ⟨⟩⟩⟩
    rintro rfl
    rw [readField] at read
    split at read
    · cases read
    · rename_i key value _
      cases told : field.shape.read value with
      | ok carried =>
        rw [told] at read
        cases read
      | error misfits =>
        rw [told, Except.mapError, Except.error.injEq, List.map_eq_nil_iff] at read
        exact absurd (read ▸ told) (read_tells field.shape value)

theorem no_problems_iff : problems entries = [] ↔ ∀ field, ∃ carried, readField entries field = .ok carried := by
  rw [problems, List.flatMap_eq_nil_iff]
  constructor
  · intro none field
    exact no_field_problems_iff.1 (none field (Field.mem_all field))
  · intro read field _
    exact no_field_problems_iff.2 (read field)

theorem value_of_read {carried : field.shape.Carrier} (read : readField entries field = .ok carried) :
    valueOf entries field = carried := by
  unfold valueOf
  rw [read]

/-- Every field has been read, and what no field has taken is left. -/
theorem accepted_iff : ofRegular entries = .ok answers ↔
    (∀ field, readField entries field = .ok (answers.values field)) ∧
      answers.extras = entries.filter fun entry => !isTaken entries entry.1 := by
  constructor
  · intro accepted
    rw [ofRegular] at accepted
    split at accepted
    · rename_i none
      cases accepted
      refine ⟨fun field => ?_, rfl⟩
      obtain ⟨carried, read⟩ := no_problems_iff.1 none field
      exact read.trans (congrArg Except.ok (value_of_read read).symm)
    · cases accepted
  · rintro ⟨read, left⟩
    have none : problems entries = [] := no_problems_iff.2 fun field => ⟨_, read field⟩
    have carried : valueOf entries = answers.values := by
      funext field
      exact value_of_read (read field)
    rw [ofRegular, none, carried, ← left]

theorem read_located {key : String} {value : Value} (located : locate entries field = some (key, value))
    {carried : field.shape.Carrier} : readField entries field = .ok carried ↔ field.shape.read value = .ok carried := by
  rw [readField, located]
  dsimp only
  cases field.shape.read value with
  | ok found =>
    constructor <;>
    · rintro ⟨⟩
      rfl
  | error misfits => constructor <;> rintro ⟨⟩

theorem read_missing (missing : locate entries field = .none) : readField entries field = .ok field.shape.absent := by
  rw [readField, missing]

theorem read_field_iff : (∃ carried, readField entries field = .ok carried) ↔
    ∀ key value, locate entries field = some (key, value) → Fits field.shape value := by
  cases located : locate entries field with
  | none =>
    refine ⟨?_, fun _ => ⟨_, read_missing located⟩⟩
    rintro _ key value ⟨⟩
  | some entry =>
    obtain ⟨key, value⟩ := entry
    simp only [read_located located, read_iff]
    constructor
    · rintro fits key value ⟨⟩
      exact fits
    · intro fits
      exact fits key value rfl

/-- A field is answered by a value that does not fit it. -/
def Misfitting (entries : Table Value) : Prop :=
  ∃ field key value, locate entries field = some (key, value) ∧ ¬ Fits (Field.shape field) value

/-- Answers are refused because of values that do not fit, and for no other reason. -/
theorem refused_iff : (∃ found, ofRegular entries = .error found) ↔ Misfitting entries := by
  constructor
  · rintro ⟨found, refused⟩
    by_contra fitting
    have fits : ∀ field, ∃ carried, readField entries field = .ok carried := by
      intro field
      rw [read_field_iff]
      intro key value located
      by_contra misfit
      exact fitting ⟨field, key, value, located, misfit⟩
    rw [ofRegular, no_problems_iff.2 fits] at refused
    cases refused
  · rintro ⟨field, key, value, located, misfit⟩
    cases outcome : ofRegular entries with
    | error found => exact ⟨found, rfl⟩
    | ok answers =>
      have read : ∃ carried, readField entries field = .ok carried := ⟨_, (accepted_iff.1 outcome).1 field⟩
      exact absurd (read_field_iff.1 read key value located) misfit

end Answers

end Handbook
