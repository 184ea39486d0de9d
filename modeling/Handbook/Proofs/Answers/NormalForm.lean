import Handbook.Proofs.Answers.Judging
import Mathlib.Data.List.DropRight

/-!
Answers that are written and read again. Making raw answers regular twice is making them regular once, and the
record of answers that have been accepted is regular. Main statement of this module: reading that record gives the
same answers, field by field and extra by extra, and it is judged as the raw answers were.
-/

namespace Handbook

namespace Text

theorem trim_start_prefix {text first : List Char} (trimmed : trimStart text = text) (front : first <+: text) :
    trimStart first = first := by
  cases first with
  | nil => rfl
  | cons c rest =>
    obtain ⟨behind, rfl⟩ := front
    rw [trimStart, List.dropWhile_eq_self_iff] at trimmed ⊢
    exact fun _ => trimmed (Nat.succ_pos _)

theorem trim_idem (text : List Char) : trim (trim text) = trim text := by
  have front : trim text <+: trimStart text := List.rdropWhile_prefix _ _
  rw [trim, trim_start_prefix (trimStart_idem text) front, trim, trimEnd_idem]

theorem trim_string_idem (text : String) : trimString (trimString text) = trimString text := by
  rw [trimString, trimString, String.toList_ofList, trim_idem]

end Text

/-- Whether a list is asked for. -/
def Shape.isList : Shape → Bool
  | .choices _ => true
  | _ => false

namespace Field

variable {field other : Field}

theorem all_distinct : all.Nodup := by decide

theorem camel_key_injective (same : field.camelKey = other.camelKey) : field = other := by
  have apart : ∀ field ∈ all, ∀ other ∈ all, field.camelKey = other.camelKey → field = other := by decide
  exact apart field (mem_all field) other (mem_all other) same

/-- A key of one field is never the other key of another field. -/
theorem field_of_keys (same : field.snakeKey = other.camelKey) : field = other := by
  have apart : ∀ field ∈ all, ∀ other ∈ all, field.snakeKey = other.camelKey → field = other := by decide
  exact apart field (mem_all field) other (mem_all other) same

/-- Both keys of a field tell whether a list is asked for. -/
theorem is_list_key (field : Field) :
    Answers.isListKey field.camelKey = field.shape.isList ∧ Answers.isListKey field.snakeKey = field.shape.isList := by
  have known : ∀ field ∈ all, Answers.isListKey field.camelKey = field.shape.isList ∧
      Answers.isListKey field.snakeKey = field.shape.isList := by decide
  exact known field (mem_all field)

end Field

namespace Answers

variable {entries : Table Value} {answers : Answers} {field : Field} {key : String} {value : Value}

/-! Regular entries. -/

/-- Every entry is in regular form. -/
def IsRegular (entries : Table Value) : Prop := ∀ entry ∈ entries, regular? entry.1 entry.2 = some entry.2

/-- A value that is wrapped for a list stays as it is, and so does one that is kept. -/
theorem regular_again {made again : Value} (settled : isListKey key = false → regular? key made = some made)
    (found : (if isListKey key then .list [made] else made) = again) : regular? key again = some again := by
  subst found
  cases listed : isListKey key with
  | true => rfl
  | false => exact settled listed

theorem regular_idem {again : Value} (made : regular? key value = some again) : regular? key again = some again := by
  cases value with
  | null => cases made
  | list items =>
    cases made
    rfl
  | str text =>
    refine regular_again (fun plain => ?_) (Option.some.inj made)
    rw [regular?, plain, Text.trim_string_idem]
    rfl
  | bool _ | int _ | float _ | record _ =>
    refine regular_again (fun plain => ?_) (Option.some.inj made)
    simp only [regular?, plain]
    rfl

theorem is_regular (entries : Table Value) : IsRegular (regular entries) := by
  intro entry member
  obtain ⟨⟨key, value⟩, _, made⟩ := List.mem_filterMap.1 member
  obtain ⟨again, found, rfl⟩ := Option.map_eq_some_iff.1 made
  exact regular_idem found

theorem regular_eq_self (settled : IsRegular entries) : regular entries = entries := by
  have kept : ∀ entry ∈ entries, (regular? entry.1 entry.2).map (fun value => (entry.1, value)) = some entry := by
    intro entry member
    rw [settled entry member]
    rfl
  exact (List.filterMap_congr kept).trans List.filterMap_some

/-! The record of accepted answers. -/

/-- The entries that a record has for fields. -/
def given (answers : Answers) (fields : List Field) : Table Value :=
  fields.filterMap fun field => (field.shape.write (answers.values field)).map fun value => (field.camelKey, value)

theorem to_record_eq (answers : Answers) : answers.toRecord = answers.given Field.all ++ answers.extras := rfl

theorem mem_given {fields : List Field} : (key, value) ∈ answers.given fields ↔
    ∃ field ∈ fields, field.camelKey = key ∧ field.shape.write (answers.values field) = some value := by
  rw [given, List.mem_filterMap]
  constructor
  · rintro ⟨field, member, found⟩
    obtain ⟨written, write, same⟩ := Option.map_eq_some_iff.1 found
    cases same
    exact ⟨field, member, rfl, write⟩
  · rintro ⟨field, member, rfl, write⟩
    exact ⟨field, member, Option.map_eq_some_iff.2 ⟨value, write, rfl⟩⟩

theorem given_distinct (answers : Answers) : (answers.given Field.all).keys.Nodup := by
  rw [Table.keys, given, List.map_filterMap]
  refine List.Nodup.filterMap ?_ Field.all_distinct
  intro field other key member member'
  simp only [Option.map_map, Option.mem_def, Option.map_eq_some_iff] at member member'
  obtain ⟨_, _, same⟩ := member
  obtain ⟨_, _, same'⟩ := member'
  exact Field.camel_key_injective (same.trans same'.symm)

theorem get_given (answers : Answers) (field : Field) :
    (answers.given Field.all).get? field.camelKey = field.shape.write (answers.values field) := by
  cases write : field.shape.write (answers.values field) with
  | some value => exact Table.get?_of_mem (given_distinct answers) (mem_given.2 ⟨field, field.mem_all, rfl, write⟩)
  | none =>
    apply Table.get?_of_absent
    intro member
    obtain ⟨⟨key, value⟩, inside, same⟩ := List.mem_map.1 member
    obtain ⟨other, _, sameKey, write'⟩ := mem_given.1 inside
    cases Field.camel_key_injective (sameKey.trans same)
    rw [write] at write'
    cases write'

theorem get_to_record (answers : Answers) (key : String) :
    Table.get? answers.toRecord key = ((answers.given Field.all).get? key).or (answers.extras.get? key) := by
  rw [to_record_eq]
  exact List.lookup_append

/-! What is written of an answer that has been read. -/

theorem regular_congr {other : String} (alike : isListKey key = isListKey other) (value : Value) :
    regular? key value = regular? other value := by
  unfold regular?
  rw [alike]

theorem truth_settled (plain : isListKey key = false) (truth : Bool) :
    regular? key (.bool truth) = some (.bool truth) := by
  simp only [regular?, plain]
  rfl

/-- What is written is regular: it is the value that has been read, or a list, or a truth value. -/
theorem settled_of_read {shape : Shape} {carried : shape.Carrier} (read : shape.read value = .ok carried)
    (alike : isListKey key = shape.isList) (settled : regular? key value = some value) :
    ∃ written, shape.write carried = some written ∧ regular? key written = some written := by
  cases shape with
  | choice names =>
    obtain ⟨chosen, found⟩ := mapped_iff.1 ⟨carried, read⟩
    obtain ⟨name, listed, rfl⟩ := read_choice_iff.1 ⟨chosen, found⟩
    have same : carried = some ⟨name, listed⟩ := by
      rw [Shape.read, readChoice, dif_pos listed] at read
      exact (Except.ok.inj read).symm
    subst same
    exact ⟨.str name, rfl, settled⟩
  | text =>
    cases value with
    | str text =>
      cases read
      exact ⟨.str text, rfl, settled⟩
    | _ => cases read
  | choices names => exact ⟨_, rfl, rfl⟩
  | flag => exact ⟨_, rfl, truth_settled alike carried⟩

theorem absent_settled {shape : Shape} {written : Value} (write : shape.write shape.absent = some written)
    (alike : isListKey key = shape.isList) : regular? key written = some written := by
  cases shape with
  | choice names => cases write
  | text => cases write
  | choices names =>
    cases write
    rfl
  | flag =>
    cases write
    exact truth_settled alike false

theorem absent_of_unwritten {shape : Shape} {carried : shape.Carrier} (unwritten : shape.write carried = .none) :
    carried = shape.absent := by
  cases shape with
  | choice names => exact Option.map_eq_none_iff.1 unwritten
  | text => exact Option.map_eq_none_iff.1 unwritten
  | choices names => cases unwritten
  | flag => cases unwritten

theorem locate_keys (located : locate entries field = some (key, value)) :
    (key = field.camelKey ∨ key = field.snakeKey) ∧ (key, value) ∈ entries := by
  rw [locate] at located
  split at located
  · rename_i found
    cases located
    exact ⟨.inl rfl, Table.mem_of_get? found⟩
  · obtain ⟨_, found, same⟩ := Option.map_eq_some_iff.1 located
    cases same
    exact ⟨.inr rfl, Table.mem_of_get? found⟩

/-! The record, read again. -/

/-- Answers as they are read from regular entries. -/
structure ReadFrom (entries : Table Value) (answers : Answers) : Prop where
  regular : IsRegular entries
  read : ∀ field, readField entries field = .ok (answers.values field)
  left : answers.extras = entries.filter fun entry => !isTaken entries entry.1

theorem read_from_accepted (accepted : ofEntries entries = .ok answers) : ReadFrom (regular entries) answers := by
  obtain ⟨read, left⟩ := accepted_iff.1 accepted
  exact ⟨is_regular entries, read, left⟩

/-- A field that is answered is written, in regular form. -/
theorem located_settled (origin : ReadFrom entries answers) (located : locate entries field = some (key, value)) :
    ∃ written, field.shape.write (answers.values field) = some written ∧
      regular? field.camelKey written = some written := by
  obtain ⟨named, member⟩ := locate_keys located
  have settled : regular? field.camelKey value = some value := by
    rw [← origin.regular _ member]
    apply regular_congr
    rcases named with rfl | rfl
    · rfl
    · exact field.is_list_key.1.trans field.is_list_key.2.symm
  exact settled_of_read ((read_located located).1 (origin.read field)) field.is_list_key.1 settled

theorem unlocated_absent (origin : ReadFrom entries answers) (missing : locate entries field = .none) :
    answers.values field = field.shape.absent :=
  Except.ok.inj ((origin.read field).symm.trans (read_missing missing))

theorem written_settled (origin : ReadFrom entries answers)
    (write : field.shape.write (answers.values field) = some value) : regular? field.camelKey value = some value := by
  cases located : locate entries field with
  | none =>
    rw [unlocated_absent origin located] at write
    exact absent_settled write field.is_list_key.1
  | some entry =>
    obtain ⟨written, write', settled⟩ := located_settled origin located
    cases write.symm.trans write'
    exact settled

/-- The record of accepted answers is regular. -/
theorem record_regular (origin : ReadFrom entries answers) : IsRegular answers.toRecord := by
  rintro ⟨key, value⟩ member
  rw [to_record_eq, List.mem_append] at member
  rcases member with inside | extra
  · obtain ⟨field, _, rfl, write⟩ := mem_given.1 inside
    exact written_settled origin write
  · rw [origin.left] at extra
    exact origin.regular _ (List.mem_of_mem_filter extra)

theorem missing_of_unlocated (missing : locate entries field = .none) :
    entries.get? field.camelKey = .none ∧ entries.get? field.snakeKey = .none := by
  rw [locate] at missing
  split at missing
  · cases missing
  · rename_i absent
    exact ⟨absent, Option.map_eq_none_iff.1 missing⟩

theorem extra_missing (origin : ReadFrom entries answers) (missing : entries.get? key = .none) :
    answers.extras.get? key = .none := by
  apply Table.get?_of_absent
  rw [origin.left]
  intro member
  obtain ⟨entry, inside, rfl⟩ := List.mem_map.1 member
  have present : entry.1 ∈ entries.keys := List.mem_map.2 ⟨entry, List.mem_of_mem_filter inside, rfl⟩
  rw [← Table.has_iff, Table.has, missing] at present
  cases present

/-- A field is found under its first key in the record, or not at all. -/
theorem locate_record (origin : ReadFrom entries answers) (field : Field) : locate answers.toRecord field =
    (field.shape.write (answers.values field)).map fun value => (field.camelKey, value) := by
  cases write : field.shape.write (answers.values field) with
  | some value =>
    have found : Table.get? answers.toRecord field.camelKey = some value := by
      rw [get_to_record, get_given, write]
      rfl
    rw [locate, found]
    rfl
  | none =>
    have unlocated : locate entries field = .none := by
      cases located : locate entries field with
      | none => rfl
      | some entry =>
        obtain ⟨written, write', _⟩ := located_settled origin located
        cases write.symm.trans write'
    obtain ⟨first, second⟩ := missing_of_unlocated unlocated
    have camel : Table.get? answers.toRecord field.camelKey = .none := by
      rw [get_to_record, get_given, write]
      exact extra_missing origin first
    have unwritten : (answers.given Field.all).get? field.snakeKey = .none := by
      apply Table.get?_of_absent
      intro member
      obtain ⟨⟨key, value⟩, inside, same⟩ := List.mem_map.1 member
      obtain ⟨other, _, sameKey, write'⟩ := mem_given.1 inside
      cases Field.field_of_keys (same.symm.trans sameKey.symm)
      cases write.symm.trans write'
    have snake : Table.get? answers.toRecord field.snakeKey = .none := by
      rw [get_to_record, unwritten]
      exact extra_missing origin second
    rw [locate, camel, snake]
    rfl

theorem taken_iff (origin : ReadFrom entries answers) : isTaken answers.toRecord key = true ↔
    ∃ field : Field, field.camelKey = key ∧ ∃ value, field.shape.write (answers.values field) = some value := by
  rw [isTaken, List.any_eq_true]
  constructor
  · rintro ⟨field, _, taken⟩
    rw [locate_record origin, decide_eq_true_eq, Option.map_map, Option.map_eq_some_iff] at taken
    obtain ⟨value, write, same⟩ := taken
    exact ⟨field, same, value, write⟩
  · rintro ⟨field, rfl, value, write⟩
    refine ⟨field, field.mem_all, ?_⟩
    rw [locate_record origin, write]
    exact decide_eq_true rfl

theorem taken_of_camel_key (present : field.camelKey ∈ entries.keys) : isTaken entries field.camelKey = true := by
  rw [← Table.has_iff, Table.has, Option.isSome_iff_exists] at present
  obtain ⟨value, found⟩ := present
  rw [isTaken, List.any_eq_true]
  refine ⟨field, field.mem_all, ?_⟩
  rw [locate, found]
  exact decide_eq_true rfl

/-- What has been an extra is an extra again. -/
theorem extras_left (origin : ReadFrom entries answers) :
    answers.extras = answers.toRecord.filter fun entry => !isTaken answers.toRecord entry.1 := by
  have inside : (answers.given Field.all).filter (fun entry => !isTaken answers.toRecord entry.1) = [] := by
    rw [List.filter_eq_nil_iff]
    rintro ⟨key, value⟩ member
    obtain ⟨field, _, same, write⟩ := mem_given.1 member
    have taken : isTaken answers.toRecord key = true := (taken_iff origin).2 ⟨field, same, value, write⟩
    simp [taken]
  have outside : answers.extras.filter (fun entry => !isTaken answers.toRecord entry.1) = answers.extras := by
    rw [List.filter_eq_self]
    rintro ⟨key, value⟩ member
    rw [origin.left, List.mem_filter] at member
    have untaken : ¬ isTaken answers.toRecord key = true := by
      intro taken
      obtain ⟨field, rfl, _⟩ := (taken_iff origin).1 taken
      have before := member.2
      rw [taken_of_camel_key (List.mem_map.2 ⟨_, member.1, rfl⟩)] at before
      cases before
    simpa using untaken
  rw [to_record_eq, List.filter_append, ← to_record_eq, inside, outside, List.nil_append]

/-- The record of accepted answers is read as the same answers. -/
theorem record_accepted (accepted : ofEntries entries = .ok answers) : ofEntries answers.toRecord = .ok answers := by
  have origin := read_from_accepted accepted
  rw [ofEntries, regular_eq_self (record_regular origin)]
  refine accepted_iff.2 ⟨fun field => ?_, extras_left origin⟩
  have located := locate_record origin field
  cases write : field.shape.write (answers.values field) with
  | some value =>
    rw [write] at located
    exact (read_located located).2 (Shape.read_write write)
  | none =>
    rw [write] at located
    rw [absent_of_unwritten write]
    exact read_missing located

/-! The verdict on the record. -/

theorem regular_cons (key : String) (value : Value) (rest : Table Value) : regular ((key, value) :: rest) =
    match regular? key value with
    | .none => regular rest
    | some again => (key, again) :: regular rest := by
  rw [regular, List.filterMap_cons]
  dsimp only
  cases regular? key value <;> rfl

theorem get_regular {again : Value} (found : entries.get? key = some value) (made : regular? key value = some again) :
    (regular entries).get? key = some again := by
  induction entries with
  | nil => cases found
  | cons entry rest ih =>
    obtain ⟨name, first⟩ := entry
    rw [Table.get?_cons] at found
    rw [regular_cons]
    by_cases same : key = name
    · subst same
      rw [if_pos rfl, Option.some.injEq] at found
      subst found
      rw [made, Table.get?_cons, if_pos rfl]
    · rw [if_neg same] at found
      cases regular? name first with
      | none => exact ih found
      | some kept =>
        rw [Table.get?_cons, if_neg same]
        exact ih found

theorem given_record (accepted : ofEntries entries = .ok answers) (given : Given entries field.camelKey) :
    Given answers.toRecord field.camelKey := by
  obtain ⟨value, found, solid⟩ := given
  have origin := read_from_accepted accepted
  obtain ⟨again, made⟩ : ∃ again, regular? field.camelKey value = some again := by
    cases value with
    | null => exact absurd rfl solid
    | _ => exact ⟨_, rfl⟩
  have located : locate (regular entries) field = some (field.camelKey, again) := by
    rw [locate, get_regular found made]
  obtain ⟨written, write, settled⟩ := located_settled origin located
  refine ⟨written, ?_, ?_⟩
  · rw [get_to_record, get_given, write]
    rfl
  · rintro rfl
    cases settled

/-- Answers that have been accepted are read again from their record without a change, and if the raw answers are
valid, so is the record, with the same advice. -/
theorem record_reads_back (accepted : ofEntries entries = .ok answers) :
    ofEntries answers.toRecord = .ok answers ∧
      ((Verdict.ofEntries entries).isValid = true →
        (Verdict.ofEntries answers.toRecord).isValid = true ∧
          (Verdict.ofEntries answers.toRecord).warnings = (Verdict.ofEntries entries).warnings) := by
  have again := record_accepted accepted
  refine ⟨again, fun valid => ⟨?_, ?_⟩⟩
  · obtain ⟨given, kept⟩ := (Verdict.valid_iff accepted).1 valid
    exact (Verdict.valid_iff again).2 ⟨@given_record _ _ .projectType accepted given, kept⟩
  · rw [Verdict.ofEntries, Verdict.ofEntries, again, accepted]
    rfl

/-! Answers with both keys of a field, a null, a single value for a list, and extras. -/

def survey : Table Value :=
  [("projectType", .str " backend "), ("code_style", .str "functional"), ("stack", .null), ("saveProfile", .int 0),
    ("packageManager", .str "pnpm"), ("package_manager", .str "yarn "), ("owner", .record [("team", .null)])]

/-- The record of these answers. -/
def surveyed : Table Value :=
  [("projectType", .str "backend"), ("packageManager", .str "pnpm"), ("codeStyle", .list [.str "functional"]),
    ("assistantBehavior", .list []), ("wantAdvancedOptions", .bool false), ("mcpServers", .list []),
    ("teamFeatures", .list []), ("saveProfile", .bool false), ("package_manager", .str "yarn"),
    ("owner", .record [("team", .null)])]

theorem survey_reads_back : ∃ answers, ofEntries survey = .ok answers ∧ answers.toRecord = surveyed ∧
    ofEntries surveyed = .ok answers ∧ (Verdict.ofEntries surveyed).isValid = true ∧
    (Verdict.ofEntries surveyed).warnings = (Verdict.ofEntries survey).warnings := by
  have accepted : ofEntries survey
      = .ok ⟨valueOf (regular survey), [("package_manager", .str "yarn"), ("owner", .record [("team", .null)])]⟩ := rfl
  have valid : (Verdict.ofEntries survey).isValid = true := rfl
  obtain ⟨again, judged⟩ := record_reads_back accepted
  exact ⟨_, accepted, rfl, again, judged valid⟩

end Answers

end Handbook
