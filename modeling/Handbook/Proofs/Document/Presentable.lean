import Handbook.Proofs.Composer.Literal
import Handbook.Proofs.Template.Tidy

/-!
Contexts that the built-in template can present: they have all entries that it reads, as texts, as lists of texts or as
lists of records, and every text in them is tidy. Main statement of this module: such a context is rendered, to a text
without doubled braces.
-/

namespace Handbook.Document

open Template Composer

variable {helpers : Table Helper} {outer context : Context} {nodes : List Node} {names : List String}

/-! What the page reads. -/

/-- The entries that the page inserts as texts. -/
def textEntries : List String :=
  ["projectTypeLabel", "version", "date", "profileName", "stackLabel", "languageLabel", "packageManager",
    "databaseLabel", "testingLabel", "stylingLabel", "componentLibraryLabel", "deploymentLabel", "fileStructure",
    "testingStrategy", "uiGuidelines", "gitCommitLabel", "branchStrategyLabel", "githubCliSection", "mcpSection",
    "toolAllowlistSection", "workflowSection", "teamCollaborationSection"]

/-- The entries of which the page inserts every item as text. -/
def listEntries : List String :=
  ["productionDependencies", "developmentDependencies", "codeStyleLabels", "behaviorLabels", "securityGuidelines"]

/-- The entries whose items are records, with what the page reads from each item. -/
def recordEntries : Table (List String) :=
  [("commandList", ["name", "command"]), ("configFiles", ["name", "language", "content"]),
    ("customSections", ["title", "content"])]

/-- A part of a loop that inserts texts under the given names only. -/
def readsOnly (names : List String) : Node → Bool
  | .text _ => true
  | .variable path => names.contains path
  | _ => false

mutual

/-- A part of a template that reads no other entries, and reads them for what they are. -/
def presents : Node → Bool
  | .text _ => true
  | .variable path => textEntries.contains path
  | .branch _ whenTrue none => presentsAll whenTrue
  | .loop path body =>
    listEntries.contains path && body.all (readsOnly ["this"])
      || recordEntries.any fun entry => entry.1 = path && body.all (readsOnly entry.2)
  | .call helper written => helper = "join" && listEntries.any fun name => written = name ++ " \", \""
  | _ => false

def presentsAll : List Node → Bool
  | [] => true
  | node :: rest => presents node && presentsAll rest

end

theorem page_presents : presentsAll pageTree = true := by decide +kernel

theorem page_tidy : tidyAll isPageHelper pageTree = true := by decide +kernel

/-! What the page needs. -/

/-- There is a tidy text under the name. -/
def HasText (entries : Table Value) (name : String) : Prop :=
  ∃ text, entries.get? name = some (.str text) ∧ Tidy text

/-- There is a list of tidy texts under the name. -/
def HasTexts (entries : Table Value) (name : String) : Prop :=
  ∃ texts, entries.get? name = some (.strings texts) ∧ ∀ text ∈ texts, Tidy text

/-- A record with a tidy text under each of the names. -/
def IsTidyRecord (names : List String) (item : Value) : Prop :=
  ∃ entries, item = .record entries ∧ (Table.keys entries).Nodup ∧ ∀ name ∈ names, HasText entries name

/-- All that the page reads is there, and its texts are tidy. -/
structure Presentable (context : Context) : Prop where
  texts : ∀ name ∈ textEntries, HasText context name
  lists : ∀ name ∈ listEntries, HasTexts context name
  records : ∀ entry ∈ recordEntries, ∃ items, context.get? entry.1 = some (.list items) ∧
    ∀ item ∈ items, IsTidyRecord entry.2 item

theorem tidy_record {fields : Table String} (distinct : fields.keys.Nodup) (tidy : ∀ field ∈ fields, Tidy field.2) :
    IsTidyRecord fields.keys (.ofTexts fields) := by
  have named : Table.keys (fields.map fun field => (field.1, Value.str field.2)) = fields.keys := List.map_map
  refine ⟨_, rfl, by rwa [named], fun name member => ?_⟩
  obtain ⟨field, listed, rfl⟩ := List.mem_map.1 member
  refine ⟨field.2, Table.get?_of_mem (by rwa [named]) (List.mem_map.2 ⟨field, listed, rfl⟩), tidy field listed⟩

/-! Loops. -/

theorem chosen_of_reads_only {body : List Node} (reads : body.all (readsOnly names) = true) :
    chosenRepliesAll helpers outer body = [] := by
  induction body with
  | nil => rfl
  | cons node rest ih =>
    rw [List.all_cons, Bool.and_eq_true] at reads
    rw [chosenRepliesAll, ih reads.2, List.append_nil]
    cases node with
    | text => rfl
    | «variable» => rfl
    | _ => cases reads.1

theorem inserts_of_reads_only {body : List Node} (reads : body.all (readsOnly names) = true)
    (tidy : ∀ name ∈ names, IsTidyReply (.ok (valueAt context name))) : InsertsTidy helpers outer context body := by
  induction body with
  | nil => exact inserts_nil
  | cons node rest ih =>
    rw [List.all_cons, Bool.and_eq_true] at reads
    refine inserts_cons.2 ⟨?_, ih reads.2⟩
    cases node with
    | text written => exact inserts_text written
    | «variable» path => exact inserts_variable.2 (tidy path (List.contains_iff_mem.1 reads.1))
    | _ => cases reads.1

/-- A loop inserts tidy texts if the names that it reads stand for such in every round. -/
theorem inserts_rounds {name : String} {items : List Value} (simple : isEntryName name = true)
    (found : context.get? name = some (.list items)) {body : List Node} (reads : body.all (readsOnly names) = true)
    (tidy : ∀ item ∈ items, ∀ length index, ∀ name ∈ names,
      IsTidyReply (.ok (valueAt (roundContext context length index item) name))) :
    InsertsTidy helpers outer context [.loop name body] := by
  have list : valueAt context name = .list items := by rw [value_at_name simple, found]; rfl
  rw [inserts_loop list, chosen_of_reads_only reads]
  refine ⟨fun _ none => absurd none List.not_mem_nil, fun round member reply inside => ?_⟩
  obtain ⟨item, listed, index, rfl⟩ := round_of_mem member
  have inserts : InsertsTidy helpers outer (roundContext context items.length index item) body :=
    inserts_of_reads_only reads (tidy item listed _ index)
  exact inserts reply (List.mem_append_right _ inside)

theorem this_value (context : Context) (length index : Nat) (text : String) :
    valueAt (roundContext context length index (.str text)) "this" = .str text := by
  have single (entries : Table Value) : Value.str text ≠ .record entries := by
    rintro ⟨⟩
  exact value_at_eq (this_in_round single context length index)

theorem list_names_simple : ∀ name ∈ listEntries, isEntryName name = true := by decide

theorem record_names_simple : ∀ entry ∈ recordEntries, isEntryName entry.1 = true ∧
    ∀ name ∈ entry.2, isEntryName name = true := by
  decide

theorem list_inserts (presentable : Presentable context) {name : String} (member : name ∈ listEntries)
    {body : List Node} (reads : body.all (readsOnly ["this"]) = true) :
    InsertsTidy helpers outer context [.loop name body] := by
  obtain ⟨texts, found, tidy⟩ := presentable.lists name member
  refine inserts_rounds (list_names_simple name member) found reads ?_
  intro item listed length index this same
  obtain ⟨text, inside, rfl⟩ := List.mem_map.1 listed
  rw [List.mem_singleton.1 same, this_value]
  exact tidy_reply_text (tidy text inside)

theorem record_inserts (presentable : Presentable context) {entry : String × List String}
    (member : entry ∈ recordEntries) {body : List Node} (reads : body.all (readsOnly entry.2) = true) :
    InsertsTidy helpers outer context [.loop entry.1 body] := by
  obtain ⟨items, found, tidy⟩ := presentable.records entry member
  obtain ⟨simple, fields⟩ := record_names_simple entry member
  refine inserts_rounds simple found reads ?_
  intro item listed length index name read
  obtain ⟨entries, rfl, distinct, has⟩ := tidy item listed
  obtain ⟨text, own, clean⟩ := has name read
  rw [round_value (fields name read) distinct own]
  exact tidy_reply_text clean

/-! Joined lists. -/

theorem join_tokens : ∀ name ∈ listEntries,
    tokens (name ++ " \", \"").toList = [.bare name.toList, .quoted ", ".toList] ∧
      isPathToken name.toList = true ∧ isSteadyPath name.toList = true := by
  decide

theorem join_texts (texts : List String) :
    joinHelper [.strings texts, .str ", "] = .ok (.str (", ".intercalate texts)) := by
  have written : (texts.map Value.str).mapM (·.toText Value.inserted) = Except.ok texts := by
    rw [each_read_iff, List.forall₂_map_left_iff, List.forall₂_same]
    exact fun text _ => rfl
  have unfolded : joinHelper [.strings texts, .str ", "] = (do
      let items ← (texts.map Value.str).mapM (·.toText Value.inserted)
      return .str (", ".intercalate items)) := rfl
  rw [unfolded, written]
  rfl

theorem join_inserts (joins : helpers.get? "join" = some joinHelper) (presentable : Presentable context) {name : String}
    (member : name ∈ listEntries) : InsertsTidy helpers outer context [.call "join" (name ++ " \", \"")] := by
  obtain ⟨texts, found, tidy⟩ := presentable.lists name member
  obtain ⟨parted, named, steady⟩ := join_tokens name member
  have list : valueAt context name = .strings texts := by
    rw [value_at_name (list_names_simple name member), found]
    rfl
  have values : arguments context (name ++ " \", \"").toList = .ok [.strings texts, .str ", "] := by
    rw [arguments, parted, List.mapM_cons, Token.value, if_pos named, read_at steady, list]
    rfl
  rw [inserts_call joins, replyOf, values]
  dsimp only
  rw [join_texts]
  change IsTidyReply (.ok (if (Value.str (", ".intercalate texts)).isTrue then .str (", ".intercalate texts) else .null))
  split
  · exact tidy_reply_text (tidy_intercalate (tidy_of_neat (by decide)) tidy)
  · exact ⟨.null, rfl, rfl, tidy_empty⟩

/-! The page. -/

theorem text_names_simple : ∀ name ∈ textEntries, isEntryName name = true := by decide

theorem presented (joins : helpers.get? "join" = some joinHelper) (presentable : Presentable context)
    (presents : presentsAll nodes = true) : InsertsTidy helpers context context nodes := by
  induction nodes using forest_induction with
  | nil => exact inserts_nil
  | text written rest ih =>
    rw [presentsAll, Bool.and_eq_true] at presents
    exact inserts_cons.2 ⟨inserts_text written, ih presents.2⟩
  | insert path rest ih =>
    rw [presentsAll, Bool.and_eq_true, Document.presents] at presents
    obtain ⟨text, found, tidy⟩ := presentable.texts path (List.contains_iff_mem.1 presents.1)
    refine inserts_cons.2 ⟨inserts_variable.2 ?_, ih presents.2⟩
    rw [value_at_name (text_names_simple path (List.contains_iff_mem.1 presents.1)), found]
    exact tidy_reply_text tidy
  | branch path whenTrue whenFalse rest sides ih =>
    rw [presentsAll, Bool.and_eq_true] at presents
    refine inserts_cons.2 ⟨inserts_branch.2 ?_, ih presents.2⟩
    cases whenFalse with
    | some whenFalse => cases presents.1
    | none =>
      cases truth : (valueAt context path).isTrue with
      | true => exact sides true presents.1
      | false => exact inserts_nil
  | loop path body rest inside ih =>
    rw [presentsAll, Bool.and_eq_true, Document.presents, Bool.or_eq_true, Bool.and_eq_true, List.any_eq_true] at presents
    refine inserts_cons.2 ⟨?_, ih presents.2⟩
    rcases presents.1 with ⟨listed, reads⟩ | ⟨entry, member, reads⟩
    · exact list_inserts presentable (List.contains_iff_mem.1 listed) reads
    · rw [Bool.and_eq_true, decide_eq_true_eq] at reads
      rw [← reads.1]
      exact record_inserts presentable member reads.2
  | call helper written rest ih =>
    rw [presentsAll, Bool.and_eq_true, Document.presents, Bool.and_eq_true, decide_eq_true_eq, List.any_eq_true]
      at presents
    obtain ⟨⟨rfl, name, member, same⟩, later⟩ := presents
    rw [decide_eq_true_eq] at same
    rw [same]
    exact inserts_cons.2 ⟨join_inserts joins presentable member, ih later⟩
  | expand name rest ih => cases presents

/-- What can be presented is rendered, to a tidy text. -/
theorem page_presented {engine : Engine} (joins : engine.helpers.get? "join" = some joinHelper)
    (presentable : Presentable context) : ∃ text, (engine.render page context).1 = .ok text ∧ Tidy text := by
  have inserts := presented joins presentable page_presents
  have knows : ∀ helper, isPageHelper helper = true → ∃ run, engine.helpers.get? helper = some run := by
    intro helper named
    rw [of_decide_eq_true named]
    exact ⟨joinHelper, joins⟩
  refine ⟨_, page_evaluated fun reply member => inserts_of_tidy (inserts reply member), ?_⟩
  exact tidy_said knows page_tidy inserts

end Handbook.Document
