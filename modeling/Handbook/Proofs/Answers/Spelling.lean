import Handbook.Proofs.Answers.NormalForm

/-!
The two spellings of keys. Main statement of this module: if no field is given under both of its keys, then it does not
matter under which one it is given. The answers that are read are the same, field by field and extra by extra, and so
are the rules that are broken and the advice. A problem of a field is the same problem, and it is told of the key that
was written.
-/

namespace Handbook

namespace Field

variable {field : Field} {key : String}

/-- The field that has a key. -/
def ofKey? (key : String) : Option Field :=
  all.find? fun field => field.camelKey = key || field.snakeKey = key

theorem of_own_keys (field : Field) : ofKey? field.camelKey = some field ∧ ofKey? field.snakeKey = some field := by
  have known : ∀ field ∈ all, ofKey? field.camelKey = some field ∧ ofKey? field.snakeKey = some field := by decide
  exact known field (mem_all field)

theorem of_key_iff : ofKey? key = some field ↔ key = field.camelKey ∨ key = field.snakeKey := by
  constructor
  · intro found
    have same := List.find?_some found
    simp only [Bool.or_eq_true, decide_eq_true_eq] at same
    exact same.imp Eq.symm Eq.symm
  · rintro (rfl | rfl)
    · exact field.of_own_keys.1
    · exact field.of_own_keys.2

/-- The other key of a field. -/
def otherKey (field : Field) (key : String) : String :=
  if key = field.camelKey then field.snakeKey else field.camelKey

theorem other_key_camel (field : Field) : field.otherKey field.camelKey = field.snakeKey := if_pos rfl

theorem other_key_snake (field : Field) : field.otherKey field.snakeKey = field.camelKey := by
  rw [otherKey]
  split
  · assumption
  · rfl

end Field

/-! Keys that are written in the other spelling. -/

variable {swapped : Field → Bool} {entries : Table Value} {field : Field} {key other : String} {value : Value}

/-- The other key in place of a key of a field that is swapped. -/
def respelled (swapped : Field → Bool) (key : String) : String :=
  match Field.ofKey? key with
  | some field => if swapped field then field.otherKey key else key
  | none => key

/-- The entries in their places, with the other key for every field that is swapped. -/
def respell (swapped : Field → Bool) (entries : Table Value) : Table Value :=
  entries.map fun entry => (respelled swapped entry.1, entry.2)

/-- No field is given under both of its keys. -/
def SpelledOnce (entries : Table Value) : Prop :=
  ∀ field : Field, field.camelKey ∈ entries.keys → field.snakeKey ∈ entries.keys → field.camelKey = field.snakeKey

instance (entries : Table Value) : Decidable (SpelledOnce entries) :=
  decidable_of_iff (∀ field ∈ Field.all, field.camelKey ∈ entries.keys → field.snakeKey ∈ entries.keys →
      field.camelKey = field.snakeKey)
    ⟨fun once field => once field field.mem_all, fun once field _ => once field⟩

/-- The problem of the same answer under the other key. -/
def Problem.respell (swapped : Field → Bool) (problem : Problem) : Problem :=
  { problem with key := respelled swapped problem.key }

def Violation.respell (swapped : Field → Bool) : Violation → Violation
  | .required key => .required key
  | .problem found => .problem (found.respell swapped)
  | .rule broken => .rule broken

def Violation.isMissing : Violation → Bool
  | .required _ => true
  | _ => false

theorem respelled_camel (swapped : Field → Bool) (field : Field) :
    respelled swapped field.camelKey = if swapped field then field.snakeKey else field.camelKey := by
  rw [respelled, field.of_own_keys.1]
  dsimp only
  rw [field.other_key_camel]

theorem respelled_snake (swapped : Field → Bool) (field : Field) :
    respelled swapped field.snakeKey = if swapped field then field.camelKey else field.snakeKey := by
  rw [respelled, field.of_own_keys.2]
  dsimp only
  rw [field.other_key_snake]

theorem respelled_foreign (foreign : Field.ofKey? key = none) : respelled swapped key = key := by
  rw [respelled, foreign]

theorem respelled_involutive (swapped : Field → Bool) : Function.Involutive (respelled swapped) := by
  intro key
  cases known : Field.ofKey? key with
  | none => rw [respelled_foreign known, respelled_foreign known]
  | some field =>
    rcases Field.of_key_iff.1 known with rfl | rfl
    · rw [respelled_camel]
      cases swap : swapped field with
      | true => rw [if_pos rfl, respelled_snake, swap, if_pos rfl]
      | false => rw [if_neg Bool.false_ne_true, respelled_camel, swap, if_neg Bool.false_ne_true]
    · rw [respelled_snake]
      cases swap : swapped field with
      | true => rw [if_pos rfl, respelled_camel, swap, if_pos rfl]
      | false => rw [if_neg Bool.false_ne_true, respelled_snake, swap, if_neg Bool.false_ne_true]

theorem respelled_inj : respelled swapped key = respelled swapped other ↔ key = other :=
  (respelled_involutive swapped).injective.eq_iff

/-! Entries. -/

theorem respell_cons (entry : String × Value) (rest : Table Value) :
    respell swapped (entry :: rest) = (respelled swapped entry.1, entry.2) :: respell swapped rest := rfl

theorem get_respell (swapped : Field → Bool) (entries : Table Value) (key : String) :
    (respell swapped entries).get? (respelled swapped key) = entries.get? key := by
  induction entries with
  | nil => rfl
  | cons entry rest ih =>
    obtain ⟨name, value⟩ := entry
    rw [respell_cons, Table.get?_cons, Table.get?_cons, ih]
    simp only [respelled_inj]

theorem filter_respell (keep : String → Bool) : (respell swapped entries).filter (fun entry => keep entry.1)
    = respell swapped (entries.filter fun entry => keep (respelled swapped entry.1)) := List.filter_map ..

/-- What is found under the keys of a field that is not swapped, and of one that is. -/
theorem get_kept (kept : swapped field = false) :
    (respell swapped entries).get? field.camelKey = entries.get? field.camelKey ∧
      (respell swapped entries).get? field.snakeKey = entries.get? field.snakeKey := by
  have camel := get_respell swapped entries field.camelKey
  have snake := get_respell swapped entries field.snakeKey
  rw [respelled_camel, kept] at camel
  rw [respelled_snake, kept] at snake
  exact ⟨camel, snake⟩

theorem get_swapped (swap : swapped field = true) :
    (respell swapped entries).get? field.camelKey = entries.get? field.snakeKey ∧
      (respell swapped entries).get? field.snakeKey = entries.get? field.camelKey := by
  have camel := get_respell swapped entries field.camelKey
  have snake := get_respell swapped entries field.snakeKey
  rw [respelled_camel, swap] at camel
  rw [respelled_snake, swap] at snake
  exact ⟨snake, camel⟩

theorem key_of_get (found : entries.get? key = some value) : key ∈ entries.keys :=
  List.mem_map.2 ⟨_, Table.mem_of_get? found, rfl⟩

namespace Answers

theorem list_key_respelled (swapped : Field → Bool) (key : String) :
    isListKey (respelled swapped key) = isListKey key := by
  cases known : Field.ofKey? key with
  | none => rw [respelled_foreign known]
  | some field =>
    obtain ⟨camel, snake⟩ := field.is_list_key
    rcases Field.of_key_iff.1 known with rfl | rfl
    · rw [respelled_camel]
      split
      · exact snake.trans camel.symm
      · rfl
    · rw [respelled_snake]
      split
      · exact camel.trans snake.symm
      · rfl

theorem regular_respell (swapped : Field → Bool) (entries : Table Value) :
    regular (respell swapped entries) = respell swapped (regular entries) := by
  induction entries with
  | nil => rfl
  | cons entry rest ih =>
    obtain ⟨key, value⟩ := entry
    rw [respell_cons, regular_cons, regular_cons, regular_congr (list_key_respelled swapped key), ih]
    cases regular? key value <;> rfl

theorem regular_keys (entries : Table Value) : (regular entries).keys.Sublist entries.keys := by
  induction entries with
  | nil => exact .slnil
  | cons entry rest ih =>
    obtain ⟨key, value⟩ := entry
    rw [regular_cons]
    cases regular? key value with
    | none => exact .cons _ ih
    | some made => exact .cons_cons _ ih

theorem regular_spelled_once (once : SpelledOnce entries) : SpelledOnce (regular entries) := by
  intro field camel snake
  exact once field ((regular_keys entries).subset camel) ((regular_keys entries).subset snake)

/-- A field is answered by the same entry, under its other key if it is swapped. -/
theorem locate_respell (once : SpelledOnce entries) (field : Field) : locate (respell swapped entries) field
    = (locate entries field).map fun entry => (respelled swapped entry.1, entry.2) := by
  cases swap : swapped field with
  | false =>
    obtain ⟨camel, snake⟩ := @get_kept swapped entries field swap
    rw [locate, locate, camel, snake]
    cases entries.get? field.camelKey with
    | some value =>
      dsimp only [Option.map_some]
      rw [respelled_camel, swap, if_neg Bool.false_ne_true]
    | none =>
      dsimp only
      rw [Option.map_map]
      refine Option.map_congr fun value _ => ?_
      rw [Function.comp_apply, respelled_snake, swap, if_neg Bool.false_ne_true]
  | true =>
    obtain ⟨camel, snake⟩ := @get_swapped swapped entries field swap
    rw [locate, locate, camel, snake]
    cases first : entries.get? field.camelKey with
    | none =>
      cases entries.get? field.snakeKey with
      | none => rfl
      | some value =>
        dsimp only [Option.map_some]
        rw [respelled_snake, swap, if_pos rfl]
    | some value =>
      cases second : entries.get? field.snakeKey with
      | none =>
        dsimp only [Option.map_some]
        rw [respelled_camel, swap, if_pos rfl]
      | some value' =>
        have same := once field (key_of_get first) (key_of_get second)
        rw [← same, first] at second
        cases second
        dsimp only [Option.map_some]
        rw [respelled_camel, swap, if_pos rfl, ← same]

theorem taken_respell (once : SpelledOnce entries) (key : String) :
    isTaken (respell swapped entries) (respelled swapped key) = isTaken entries key := by
  unfold isTaken
  congr 1
  funext field
  rw [locate_respell once, Option.map_map]
  cases locate entries field with
  | none => rfl
  | some entry => simp [respelled_inj]

/-- An entry that no field takes has a key of its own. -/
theorem foreign_of_untaken (once : SpelledOnce entries) (member : (key, value) ∈ entries)
    (untaken : isTaken entries key = false) : Field.ofKey? key = .none := by
  have present : key ∈ entries.keys := List.mem_map.2 ⟨_, member, rfl⟩
  have camel : ∀ field : Field, field.camelKey ≠ key := by
    rintro field rfl
    rw [taken_of_camel_key present] at untaken
    cases untaken
  cases known : Field.ofKey? key with
  | none => rfl
  | some field =>
    rcases Field.of_key_iff.1 known with rfl | rfl
    · exact absurd rfl (camel field)
    · have absent : entries.get? field.camelKey = .none := by
        apply Table.get?_of_absent
        intro given
        exact camel field (once field given present)
      obtain ⟨found, here⟩ := Option.isSome_iff_exists.1 (Table.has_iff.2 present)
      have taken : isTaken entries field.snakeKey = true := by
        rw [isTaken, List.any_eq_true]
        refine ⟨field, field.mem_all, ?_⟩
        rw [locate, absent, here]
        exact decide_eq_true rfl
      rw [taken] at untaken
      cases untaken

theorem extras_respell (once : SpelledOnce entries) :
    (respell swapped entries).filter (fun entry => !isTaken (respell swapped entries) entry.1)
      = entries.filter fun entry => !isTaken entries entry.1 := by
  have own : ∀ entry ∈ entries.filter (fun entry => !isTaken entries entry.1),
      (respelled swapped entry.1, entry.2) = entry := by
    intro entry member
    obtain ⟨inside, untaken⟩ := List.mem_filter.1 member
    rw [respelled_foreign (foreign_of_untaken once inside (by simpa using untaken))]
  rw [filter_respell fun key => !isTaken (respell swapped entries) key]
  simp only [taken_respell once]
  exact (List.map_congr_left own).trans (List.map_id _)

/-! Answers. -/

theorem read_respell (once : SpelledOnce entries) (field : Field) : readField (respell swapped entries) field
    = (readField entries field).mapError (List.map (Problem.respell swapped)) := by
  rw [readField, readField, locate_respell once]
  cases locate entries field with
  | none => rfl
  | some entry =>
    obtain ⟨key, value⟩ := entry
    dsimp only [Option.map_some]
    cases field.shape.read value with
    | ok carried => rfl
    | error misfits => simp [Except.mapError, Problem.respell]

theorem problems_respell (once : SpelledOnce entries) :
    problems (respell swapped entries) = (problems entries).map (Problem.respell swapped) := by
  rw [problems, problems, List.map_flatMap]
  refine List.flatMap_congr fun field _ => ?_
  rw [fieldProblems, fieldProblems, read_respell once]
  cases readField entries field <;> rfl

theorem values_respell (once : SpelledOnce entries) : valueOf (respell swapped entries) = valueOf entries := by
  funext field
  rw [valueOf, valueOf, read_respell once]
  cases readField entries field <;> rfl

theorem answers_respell (once : SpelledOnce entries) : ofEntries (respell swapped entries)
    = (ofEntries entries).mapError (List.map (Problem.respell swapped)) := by
  have settled := regular_spelled_once once
  rw [ofEntries, ofEntries, regular_respell, ofRegular, ofRegular, problems_respell settled, values_respell settled,
    extras_respell settled]
  cases problems (regular entries) <;> rfl

end Answers

/-! Verdicts. -/

namespace Verdict

theorem missing_respell (kept : swapped .projectType = true →
    "projectType" ∉ entries.keys ∧ "project_type" ∉ entries.keys) :
    missing (respell swapped entries) = missing entries := by
  have same : (respell swapped entries).get? "projectType" = entries.get? "projectType" := by
    cases swap : swapped .projectType with
    | false => exact (@get_kept swapped entries .projectType swap).1
    | true =>
      obtain ⟨camel, snake⟩ := kept swap
      rw [Table.get?_of_absent camel]
      exact (@get_swapped swapped entries .projectType swap).1.trans (Table.get?_of_absent snake)
  rw [missing, missing, required, List.filter_singleton, List.filter_singleton, same]

/-- What is wrong apart from answers that are missing. -/
def found (entries : Table Value) : List Violation :=
  match Answers.ofEntries entries with
  | .error problems => problems.map .problem
  | .ok answers => (Rule.all.filter (Rule.isBroken answers)).map .rule

theorem violations_eq (entries : Table Value) : (ofEntries entries).violations = missing entries ++ found entries := by
  rw [ofEntries, found]
  cases Answers.ofEntries entries <;> rfl

theorem filter_violations (entries : Table Value) :
    (ofEntries entries).violations.filter (fun violation => !violation.isMissing) = found entries := by
  have dropped : (missing entries).filter (fun violation => !violation.isMissing) = [] := by
    rw [List.filter_eq_nil_iff]
    intro violation member
    obtain ⟨key, _, rfl⟩ := List.mem_map.1 member
    exact Bool.false_ne_true
  have kept : (found entries).filter (fun violation => !violation.isMissing) = found entries := by
    rw [List.filter_eq_self]
    intro violation member
    rw [found] at member
    split at member <;> obtain ⟨_, _, rfl⟩ := List.mem_map.1 member <;> rfl
  rw [violations_eq, List.filter_append, dropped, kept, List.nil_append]

theorem found_respell (once : SpelledOnce entries) :
    found (respell swapped entries) = (found entries).map (Violation.respell swapped) := by
  rw [found, found, Answers.answers_respell once]
  cases Answers.ofEntries entries with
  | error problems => simp [Except.mapError, Violation.respell]
  | ok answers => simp [Except.mapError, Violation.respell]

theorem advice_respell (once : SpelledOnce entries) :
    (ofEntries (respell swapped entries)).advice = (ofEntries entries).advice := by
  rw [ofEntries, ofEntries, Answers.answers_respell once]
  cases Answers.ofEntries entries <;> rfl

theorem violations_respell (once : SpelledOnce entries)
    (kept : swapped .projectType = true → "projectType" ∉ entries.keys ∧ "project_type" ∉ entries.keys) :
    (ofEntries (respell swapped entries)).violations
      = (ofEntries entries).violations.map (Violation.respell swapped) := by
  have same : (missing entries).map (Violation.respell swapped) = missing entries := by
    rw [missing, List.map_map]
    rfl
  rw [violations_eq, violations_eq, List.map_append, same, missing_respell kept, found_respell once]

end Verdict

/-- If no field is given under both of its keys, then under the other keys the same answers are read, or the same
problems are found, each told of the key that was written. The advice is the same, and so is what is wrong apart from
answers that are missing; and if the kind of project keeps its key, then so is the verdict. -/
theorem spelling_told_only (swapped : Field → Bool) (entries : Table Value) (once : SpelledOnce entries) :
    Answers.ofEntries (respell swapped entries)
      = (Answers.ofEntries entries).mapError (List.map (Problem.respell swapped)) ∧
    (Verdict.ofEntries (respell swapped entries)).warnings = (Verdict.ofEntries entries).warnings ∧
    (Verdict.ofEntries (respell swapped entries)).violations.filter (fun violation => !violation.isMissing)
      = ((Verdict.ofEntries entries).violations.filter fun violation => !violation.isMissing).map
        (Violation.respell swapped) ∧
    ((swapped .projectType = true → "projectType" ∉ entries.keys ∧ "project_type" ∉ entries.keys) →
      (Verdict.ofEntries (respell swapped entries)).violations
        = (Verdict.ofEntries entries).violations.map (Violation.respell swapped) ∧
      (Verdict.ofEntries (respell swapped entries)).isValid = (Verdict.ofEntries entries).isValid) := by
  refine ⟨Answers.answers_respell once, ?_, ?_, fun kept => ?_⟩
  · rw [Verdict.warnings, Verdict.warnings, Verdict.advice_respell once]
  · rw [Verdict.filter_violations, Verdict.filter_violations, Verdict.found_respell once]
  · have same := Verdict.violations_respell once kept
    refine ⟨same, ?_⟩
    rw [Verdict.isValid, Verdict.isValid, same, List.isEmpty_map]

/-! Answers with one-word keys, keys of both kinds and an extra. -/

def leaflet : Table Value :=
  [("projectType", .str "backend"), ("code_style", .str "functional"), ("stack", .str "custom"), ("owner", .int 1),
    ("packageManager", .str "pnpm")]

/-- The same answers with the other keys. -/
def respelledLeaflet : Table Value :=
  [("projectType", .str "backend"), ("codeStyle", .str "functional"), ("stack", .str "custom"), ("owner", .int 1),
    ("package_manager", .str "pnpm")]

theorem leaflet_respelled : SpelledOnce leaflet ∧
    (∃ answers, Answers.ofEntries leaflet = .ok answers ∧ Answers.ofEntries respelledLeaflet = .ok answers) ∧
    (Verdict.ofEntries leaflet).errors = ["customStack is required when stack is \"custom\""] ∧
    (Verdict.ofEntries respelledLeaflet).isValid = (Verdict.ofEntries leaflet).isValid := by
  have once : SpelledOnce leaflet := by decide
  obtain ⟨read, _, _, judged⟩ := spelling_told_only (fun field => field ≠ .projectType) leaflet once
  have accepted : Answers.ofEntries leaflet = .ok ⟨Answers.valueOf (Answers.regular leaflet), [("owner", .int 1)]⟩ :=
    rfl
  rw [accepted] at read
  exact ⟨once, ⟨_, accepted, read⟩, rfl, (judged (fun swap => absurd swap (by decide))).2⟩

/-- A problem is told of the key that was written. -/
theorem problem_respelled : ¬ ∀ (swapped : Field → Bool) (entries : Table Value), SpelledOnce entries →
    (Verdict.ofEntries (respell swapped entries)).errors = (Verdict.ofEntries entries).errors := by
  intro same
  have told := same (fun field => field = .packageManager)
    [("projectType", .str "backend"), ("packageManager", .str "cargo")] (by decide)
  exact absurd told (by decide)

end Handbook
