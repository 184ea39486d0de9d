import Handbook.Proofs.Answers.Spelling

/-!
The two stages of judging raw answers. Every field is read on its own, and rules between fields are judged only once all
fields can be read. Main statement of this module: an answer that does not fit its field adds a problem of this field
and leaves the problems of the other fields and what is missing as they were. No rule is judged while it stands, and
when it is replaced by an answer that fits, every rule that was broken between other fields is told again.
-/

namespace Handbook

variable {entries entries' : Table Value} {field other : Field} {key name : String} {value made : Value}

/-! What is asked for. -/

/-- A value does not fit a field: a record with this answer alone is refused. -/
def Rejects (field : Field) (value : Value) : Prop := Refused [(field.camelKey, value)]

/-- The field is answered under this key, whatever is written there. -/
def Answering (entries : Table Value) (field : Field) (key : String) : Prop :=
  key = field.camelKey ∨ key = field.snakeKey ∧ (Answers.regular entries).get? field.camelKey = none

/-- The fields that a rule is about. -/
def Rule.fields : Rule → List Field
  | customStack => [.stack, .customStack]
  | customLanguage => [.language, .customLanguage]
  | customDatabase => [.database, .customDatabase]
  | customAuthentication => [.authentication, .customAuthentication]
  | profileName => [.saveProfile, .profileName]

/-- A rule is about its fields only. -/
theorem Rule.broken_congr {answers answers' : Answers} {rule : Rule}
    (same : ∀ field ∈ rule.fields, answers'.values field = answers.values field) :
    rule.isBroken answers' = rule.isBroken answers := by
  cases rule with
  | customStack =>
    have first : answers'.stack = answers.stack := same .stack (by decide)
    have second : answers'.customStack = answers.customStack := same .customStack (by decide)
    rw [isBroken, isBroken, first, second]
  | customLanguage =>
    have first : answers'.language = answers.language := congrArg Answers.chosen (same .language (by decide))
    have second : answers'.customLanguage = answers.customLanguage := same .customLanguage (by decide)
    rw [isBroken, isBroken, first, second]
  | customDatabase =>
    have first : answers'.database = answers.database := congrArg Answers.chosen (same .database (by decide))
    have second : answers'.customDatabase = answers.customDatabase := same .customDatabase (by decide)
    rw [isBroken, isBroken, first, second]
  | customAuthentication =>
    have first : answers'.authentication = answers.authentication :=
      congrArg Answers.chosen (same .authentication (by decide))
    have second : answers'.customAuthentication = answers.customAuthentication := same .customAuthentication (by decide)
    rw [isBroken, isBroken, first, second]
  | profileName =>
    have first : answers'.saveProfile = answers.saveProfile := same .saveProfile (by decide)
    have second : answers'.profileName = answers.profileName := same .profileName (by decide)
    rw [isBroken, isBroken, first, second]

namespace Verdict

/-! What a verdict tells. -/

theorem problem_told_iff {problem : Problem} : Violation.problem problem ∈ (ofEntries entries).violations ↔
    problem ∈ Answers.problems (Answers.regular entries) := by
  rw [violations_eq, found, Answers.ofEntries, Answers.ofRegular, missing]
  cases Answers.problems (Answers.regular entries) <;> simp

theorem rule_told_iff {rule : Rule} : Violation.rule rule ∈ (ofEntries entries).violations ↔
    ∃ answers, Answers.ofEntries entries = .ok answers ∧ rule.isBroken answers = true := by
  rw [violations_eq, found, missing]
  cases Answers.ofEntries entries <;> simp [rule.mem_all]

theorem mem_missing_iff : Violation.required name ∈ missing entries ↔ name ∈ required ∧ ¬ Given entries name := by
  rw [missing, List.mem_map]
  constructor
  · rintro ⟨_, member, ⟨⟩⟩
    obtain ⟨asked, absent⟩ := List.mem_filter.1 member
    refine ⟨asked, ?_⟩
    rintro ⟨value, found, solid⟩
    rw [found] at absent
    cases value with
    | null => exact solid rfl
    | _ => cases absent
  · rintro ⟨asked, absent⟩
    refine ⟨name, List.mem_filter.2 ⟨asked, ?_⟩, rfl⟩
    cases found : entries.get? name with
    | none => rfl
    | some value =>
      cases value with
      | null => rfl
      | _ => exact absurd ⟨_, found, by simp⟩ absent

theorem missing_told_iff : Violation.required name ∈ (ofEntries entries).violations ↔
    name ∈ required ∧ ¬ Given entries name := by
  rw [violations_eq, List.mem_append, mem_missing_iff, found]
  cases Answers.ofEntries entries <;> simp

end Verdict

namespace Answers

/-! Answers in which one entry has been written anew. -/

theorem get_regular_put_ne (apart : name ≠ key) :
    (regular (entries.put key value)).get? name = (regular entries).get? name := by
  induction entries with
  | nil =>
    rw [Table.put, regular_cons]
    cases regular? key value with
    | none => rfl
    | some made => exact (Table.get?_cons ..).trans (if_neg apart)
  | cons entry rest ih =>
    obtain ⟨first, old⟩ := entry
    rw [Table.put]
    by_cases same : first = key
    · subst same
      rw [if_pos rfl, regular_cons, regular_cons]
      cases regular? first value <;> cases regular? first old <;> simp [Table.get?_cons, apart]
    · rw [if_neg same, regular_cons, regular_cons]
      cases regular? first old with
      | none => exact ih
      | some made => rw [Table.get?_cons, Table.get?_cons, ih]

theorem get_regular_put_self (regularly : regular? key value = some made) :
    (regular (entries.put key value)).get? key = some made :=
  get_regular ((Table.get?_put ..).trans (if_pos rfl)) regularly

theorem own_key (answering : Answering entries field key) : Field.ofKey? key = some field :=
  Field.of_key_iff.2 (answering.imp_right And.left)

theorem keys_apart (answering : Answering entries field key) (different : other ≠ field) :
    other.camelKey ≠ key ∧ other.snakeKey ≠ key := by
  have own := own_key answering
  constructor
  · rintro rfl
    exact different (Option.some.inj (other.of_own_keys.1.symm.trans own))
  · rintro rfl
    exact different (Option.some.inj (other.of_own_keys.2.symm.trans own))

theorem locate_put_ne (answering : Answering entries field key) (different : other ≠ field) :
    locate (regular (entries.put key value)) other = locate (regular entries) other := by
  obtain ⟨camel, snake⟩ := keys_apart answering different
  rw [locate, locate, get_regular_put_ne camel, get_regular_put_ne snake]

theorem locate_put_self (answering : Answering entries field key) (regularly : regular? key value = some made) :
    locate (regular (entries.put key value)) field = some (key, made) := by
  have written : (regular (entries.put key value)).get? key = some made := get_regular_put_self regularly
  by_cases same : key = field.camelKey
  · rw [locate, ← same, written]
  · obtain ⟨rfl, absent⟩ := answering.resolve_left same
    rw [locate, get_regular_put_ne (Ne.symm same), absent, written]
    rfl

theorem read_congr (same : locate entries' field = locate entries field) :
    readField entries' field = readField entries field := by
  rw [readField, readField, same]

/-! Answers that do not fit. -/

theorem regular_under (own : Field.ofKey? key = some field) (value : Value) :
    regular? key value = regular? field.camelKey value := by
  apply regular_congr
  obtain ⟨camel, snake⟩ := field.is_list_key
  rcases Field.of_key_iff.1 own with rfl | rfl
  · rfl
  · exact snake.trans camel.symm

theorem regular_lone (field : Field) (value : Value) : regular [(field.camelKey, value)] =
    ((regular? field.camelKey value).map fun made => (field.camelKey, made)).toList := by
  rw [regular_cons]
  cases regular? field.camelKey value <;> rfl

/-- A value does not fit a field if, made regular, it does not fit the field's shape. -/
theorem rejects_iff : Rejects field value ↔
    ∃ made, regular? field.camelKey value = some made ∧ ¬ Fits field.shape made := by
  rw [Rejects, Refused, ofEntries, refused_iff, Misfitting, regular_lone]
  constructor
  · rintro ⟨other, key, made, located, misfit⟩
    obtain ⟨named, member⟩ := locate_keys located
    obtain ⟨_, regularly, same⟩ := Option.map_eq_some_iff.1 (Option.mem_toList.1 member)
    cases same
    have own : Field.ofKey? field.camelKey = some other := Field.of_key_iff.2 named
    cases field.of_own_keys.1.symm.trans own
    exact ⟨made, regularly, misfit⟩
  · rintro ⟨made, regularly, misfit⟩
    refine ⟨field, field.camelKey, made, ?_, misfit⟩
    rw [regularly, locate, Option.map_some, Option.toList_some, Table.get?_cons, if_pos rfl]

/-- The answer that does not fit is the one that the field is then given. -/
theorem misfit_located (answering : Answering entries field key) (rejected : Rejects field value) :
    ∃ made, locate (regular (entries.put key value)) field = some (key, made) ∧ ¬ Fits field.shape made := by
  obtain ⟨made, regularly, misfit⟩ := rejects_iff.1 rejected
  rw [← regular_under (own_key answering)] at regularly
  exact ⟨made, locate_put_self answering regularly, misfit⟩

theorem fit_located (answering : Answering entries field key) (fitting : ¬ Rejects field value)
    (solid : value ≠ .null) :
    ∃ made, locate (regular (entries.put key value)) field = some (key, made) ∧ Fits field.shape made := by
  obtain ⟨made, regularly⟩ : ∃ made, regular? field.camelKey value = some made := by
    cases value with
    | null => exact absurd rfl solid
    | _ => exact ⟨_, rfl⟩
  have fits : Fits field.shape made := by
    by_contra misfit
    exact fitting (rejects_iff.2 ⟨made, regularly, misfit⟩)
  rw [← regular_under (own_key answering)] at regularly
  exact ⟨made, locate_put_self answering regularly, fits⟩

theorem refused_put (answering : Answering entries field key) (rejected : Rejects field value) :
    Refused (entries.put key value) := by
  obtain ⟨made, located, misfit⟩ := misfit_located answering rejected
  exact refused_iff.2 ⟨field, key, made, located, misfit⟩

/-- A problem of a field is told of the key under which the field is answered. -/
theorem located_of_problem {problem : Problem} (member : problem ∈ fieldProblems entries field) :
    ∃ value, locate entries field = some (problem.key, value) := by
  rw [fieldProblems, readField] at member
  cases located : locate entries field with
  | none =>
    rw [located] at member
    cases member
  | some entry =>
    obtain ⟨key, value⟩ := entry
    rw [located] at member
    dsimp only at member
    cases read : field.shape.read value with
    | ok carried =>
      rw [read] at member
      cases member
    | error misfits =>
      rw [read] at member
      obtain ⟨_, _, rfl⟩ := List.mem_map.1 (show problem ∈ List.map _ misfits from member)
      exact ⟨value, rfl⟩

theorem field_of_problem {problem : Problem} (member : problem ∈ fieldProblems entries field) :
    Field.ofKey? problem.key = some field := by
  obtain ⟨value, located⟩ := located_of_problem member
  exact Field.of_key_iff.2 (locate_keys located).1

theorem problems_put_ne (answering : Answering entries field key) (different : other ≠ field) :
    fieldProblems (regular (entries.put key value)) other = fieldProblems (regular entries) other := by
  rw [fieldProblems, fieldProblems, read_congr (locate_put_ne answering different)]

/-- A field has a problem where it is given an answer that does not fit. -/
theorem problem_of_rejected (answering : Answering entries field key) (rejected : Rejects field value) :
    ∃ problem ∈ problems (regular (entries.put key value)), problem.key = key := by
  obtain ⟨made, located, misfit⟩ := misfit_located answering rejected
  have some : fieldProblems (regular (entries.put key value)) field ≠ [] := by
    rw [Ne, no_field_problems_iff, read_field_iff]
    exact fun fits => misfit (fits key made located)
  obtain ⟨problem, rest, first⟩ := List.exists_cons_of_ne_nil some
  have member : problem ∈ fieldProblems (regular (entries.put key value)) field := first ▸ List.mem_cons_self ..
  obtain ⟨_, located'⟩ := located_of_problem member
  cases located.symm.trans located'
  exact ⟨problem, List.mem_flatMap.2 ⟨field, field.mem_all, member⟩, rfl⟩

/-- The problems of other fields stay. -/
theorem problem_kept {problem : Problem} (answering : Answering entries field key)
    (member : problem ∈ problems (regular entries)) (elsewhere : Field.ofKey? problem.key ≠ some field) :
    problem ∈ problems (regular (entries.put key value)) := by
  obtain ⟨other, inside, told⟩ := List.mem_flatMap.1 member
  have different : other ≠ field := by
    rintro rfl
    exact elsewhere (field_of_problem told)
  refine List.mem_flatMap.2 ⟨other, inside, ?_⟩
  rwa [problems_put_ne answering different]

/-- Once the answer fits, the other fields carry what they carried. -/
theorem accepted_put {answers : Answers} (answering : Answering entries field key)
    (accepted : ofEntries entries = .ok answers) (fitting : ¬ Rejects field value) (solid : value ≠ .null) :
    ∃ answers', ofEntries (entries.put key value) = .ok answers' ∧
      ∀ other, other ≠ field → answers'.values other = answers.values other := by
  obtain ⟨read, _⟩ := accepted_iff.1 accepted
  obtain ⟨made, located, fits⟩ := fit_located answering fitting solid
  have same : ∀ other, other ≠ field →
      readField (regular (entries.put key value)) other = .ok (answers.values other) := by
    intro other different
    rw [read_congr (locate_put_ne answering different), read]
  have whole : problems (regular (entries.put key value)) = [] := by
    rw [no_problems_iff]
    intro other
    by_cases own : other = field
    · subst own
      rw [read_field_iff]
      intro key' value' located'
      cases located.symm.trans located'
      exact fits
    · exact ⟨_, same other own⟩
  refine ⟨⟨valueOf (regular (entries.put key value)),
    (regular (entries.put key value)).filter fun entry => !isTaken (regular (entries.put key value)) entry.1⟩, ?_, ?_⟩
  · rw [ofEntries, ofRegular, whole]
  · exact fun other different => value_of_read (same other different)

end Answers

/-! What is hidden, and what is not. -/

/-- An answer that does not fit its field adds a problem of the field. The problems of other fields stay, and so does
what is missing, but no rule is judged. A rule that was broken between other fields is told again when the answer is
replaced by one that fits. -/
theorem misfit_hides_rules_only (entries : Table Value) (field : Field) (key : String) (value : Value)
    (answering : Answering entries field key) (rejected : Rejects field value) :
    let before := Verdict.ofEntries entries
    let after := Verdict.ofEntries (entries.put key value)
    (∃ problem, .problem problem ∈ after.violations ∧ problem.key = key) ∧
    (∀ problem, .problem problem ∈ before.violations → problem.key ≠ field.camelKey → problem.key ≠ field.snakeKey →
      .problem problem ∈ after.violations) ∧
    (∀ name, .required name ∈ before.violations → name ≠ key → .required name ∈ after.violations) ∧
    (∀ rule, .rule rule ∉ after.violations) ∧
    ∀ rule, .rule rule ∈ before.violations → field ∉ rule.fields → ∀ mended, mended ≠ .null → ¬ Rejects field mended →
      .rule rule ∈ (Verdict.ofEntries ((entries.put key value).put key mended)).violations := by
  intro before after
  refine ⟨?_, ?_, ?_, ?_, ?_⟩
  · obtain ⟨problem, member, same⟩ := Answers.problem_of_rejected answering rejected
    exact ⟨problem, Verdict.problem_told_iff.2 member, same⟩
  · intro problem told camel snake
    refine Verdict.problem_told_iff.2 (Answers.problem_kept answering (Verdict.problem_told_iff.1 told) ?_)
    exact fun own => (Field.of_key_iff.1 own).elim camel snake
  · intro name told apart
    obtain ⟨asked, absent⟩ := Verdict.missing_told_iff.1 told
    refine Verdict.missing_told_iff.2 ⟨asked, ?_⟩
    rwa [Given, Table.get?_put, if_neg apart]
  · intro rule told
    obtain ⟨answers, accepted, _⟩ := Verdict.rule_told_iff.1 told
    obtain ⟨found, refused⟩ := Answers.refused_put answering rejected
    cases refused.symm.trans accepted
  · intro rule told about mended solid fitting
    obtain ⟨answers, accepted, broken⟩ := Verdict.rule_told_iff.1 told
    obtain ⟨answers', accepted', same⟩ := Answers.accepted_put answering accepted fitting solid
    refine Verdict.rule_told_iff.2 ⟨answers', ?_, ?_⟩
    · rw [Table.put_put]
      exact accepted'
    · rw [Rule.broken_congr fun other member => same other fun own => about (own ▸ member)]
      exact broken

/-- No project is named, and a stack of one's own is. -/
def folder : Table Value := [("stack", .str "custom")]

theorem folder_misfit_hides : Answering folder .language "language" ∧ Rejects .language (.str "Klingon") ∧
    (Verdict.ofEntries folder).violations = [.required "projectType", .rule .customStack] ∧
    .required "projectType" ∈ (Verdict.ofEntries (folder.put "language" (.str "Klingon"))).violations ∧
    .rule .customStack ∉ (Verdict.ofEntries (folder.put "language" (.str "Klingon"))).violations ∧
    .rule .customStack ∈
      (Verdict.ofEntries ((folder.put "language" (.str "Klingon")).put "language" (.str "Go"))).violations := by
  have answering : Answering folder .language "language" := .inl rfl
  have rejected : Rejects .language (.str "Klingon") := ⟨_, rfl⟩
  have fitting : ¬ Rejects .language (.str "Go") := by
    rintro ⟨_, refused⟩
    cases refused
  have told : (Verdict.ofEntries folder).violations = [.required "projectType", .rule .customStack] := rfl
  obtain ⟨_, _, required, hidden, mended⟩ := misfit_hides_rules_only folder .language "language" (.str "Klingon")
    answering rejected
  rw [told] at required mended
  refine ⟨answering, rejected, told, required _ (by simp) (by decide), hidden _, ?_⟩
  exact mended .customStack (by simp) (by decide) (.str "Go") (by simp) fitting

/-- An answer that does not fit its field hides a rule between other fields. -/
theorem rule_hidden : ¬ ∀ (entries : Table Value) (field : Field) (value : Value) (rule : Rule), Rejects field value →
    field ∉ rule.fields → .rule rule ∈ (Verdict.ofEntries entries).violations →
      .rule rule ∈ (Verdict.ofEntries (entries.put field.camelKey value)).violations := by
  intro kept
  have told := kept [("projectType", .str "backend"), ("stack", .str "custom")] .language (.str "Klingon") .customStack
    ⟨_, rfl⟩ (by decide) (List.mem_singleton.2 rfl)
  cases told with
  | tail _ told => cases told

end Handbook
