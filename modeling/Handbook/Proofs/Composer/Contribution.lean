import Handbook.Composer.Draft
import Handbook.Proofs.Steps
import Handbook.Proofs.Table

/-!
What providers contribute to the context of a document. The files and sections in it are whole records as long as
no template variable takes the place of a list of them.
-/

namespace Handbook.Composer

/-- The items of a list in a context. -/
def listed (context : Context) (name : String) : List Value :=
  match context.entry name with
  | .list items => items
  | _ => []

/-- A record that has entries of its own under the names. -/
def Entire (names : List String) : Value → Prop
  | .record entries => (Table.keys entries).Nodup ∧ ∀ name ∈ names, name ∈ Table.keys entries
  | _ => False

theorem record_of_entire {names : List String} {item : Value} (entire : Entire names item) :
    ∃ entries, item = .record entries ∧ (Table.keys entries).Nodup ∧ ∀ name ∈ names, name ∈ Table.keys entries := by
  cases item with
  | record entries => exact ⟨entries, rfl, entire⟩
  | _ => exact entire.elim

/-- The files and the sections of a context are records with entries of their own. -/
structure Itemized (context : Context) : Prop where
  files : ∀ item ∈ listed context "configFiles", Entire ["name", "language", "content"] item
  sections : ∀ item ∈ listed context "customSections", Entire ["title", "content"] item

theorem file_entire (file : ConfigFile) : Entire ["name", "language", "content"] (Context.fileValue file) := by
  change ["name", "language", "content"].Nodup ∧
    ∀ name ∈ ["name", "language", "content"], name ∈ ["name", "language", "content"]
  decide

theorem section_entire (part : Section) : Entire ["title", "content"] (Context.sectionValue part) := by
  change ["title", "content"].Nodup ∧ ∀ name ∈ ["title", "content"], name ∈ ["title", "content"]
  decide

/-! A context that is written to. -/

theorem listed_of_same {context context' : Context} {names : List String} (same : Table.Same names context context')
    {name : String} (member : name ∈ names) : listed context' name = listed context name := by
  rw [listed, listed, Context.entry, Context.entry, same name member]

theorem listed_put_list (context : Context) (name : String) (items : List Value) :
    listed (context.put name (.list items)) name = items := by
  rw [listed, Context.entry, Table.get?_put, if_pos rfl]
  rfl

/-- The names under which files and sections are kept. -/
def itemNames : List String := ["configFiles", "customSections"]

theorem itemized_of_same {context context' : Context} (itemized : Itemized context)
    (same : Table.Same itemNames context context') : Itemized context' := by
  refine ⟨?_, ?_⟩
  · rw [listed_of_same same (by decide)]
    exact itemized.files
  · rw [listed_of_same same (by decide)]
    exact itemized.sections

theorem itemized_with_files {context : Context} (itemized : Itemized context) {items : List Value}
    (entire : ∀ item ∈ items, Entire ["name", "language", "content"] item) :
    Itemized (context.put "configFiles" (.list items)) := by
  have apart : Table.Same ["customSections"] context (context.put "configFiles" (.list items)) :=
    Table.same_put (by decide) _ _
  refine ⟨?_, ?_⟩
  · rwa [listed_put_list]
  · rw [listed_of_same apart (by decide)]
    exact itemized.sections

theorem itemized_with_sections {context : Context} (itemized : Itemized context) {items : List Value}
    (entire : ∀ item ∈ items, Entire ["title", "content"] item) :
    Itemized (context.put "customSections" (.list items)) := by
  have apart : Table.Same ["configFiles"] context (context.put "customSections" (.list items)) :=
    Table.same_put (by decide) _ _
  refine ⟨?_, ?_⟩
  · rw [listed_of_same apart (by decide)]
    exact itemized.files
  · rwa [listed_put_list]

/-! Drafts. -/

variable {draft : Draft}

theorem grow_ensures (name : String) (value : Value) :
    Ensures (fun _ => True) (draft.grow name value) fun draft' _ =>
      draft'.context = draft.context.put name value := by
  rw [Draft.grow]
  split
  · exact ensures_skip fun _ => ensures_pure fun _ _ => rfl
  · exact ensures_pure fun _ _ => rfl

/-- A list in a draft becomes the old items and then the new ones. -/
theorem append_ensures (name : String) (items : Except Failure (List Value)) :
    Ensures (fun _ => True) (draft.append name items) fun draft' _ => ∃ later, items = .ok later ∧
      draft'.context = draft.context.put name (.list (listed draft.context name ++ later)) := by
  rw [Draft.append]
  split
  · rename_i old found
    refine ensures_bind ensures_lift fun later => ?_
    refine ensures_mono (ensures_and (grow_ensures name _)) fun draft' _ done => ⟨later, done.2, ?_⟩
    rw [done.1, listed, found]
  · exact ensures_throw

theorem overlay_ensures (name : String) (entries : Except Failure (Table String)) :
    Ensures (fun _ => True) (draft.overlay name entries) fun draft' _ =>
      ∃ value, draft'.context = draft.context.put name value := by
  rw [Draft.overlay]
  split
  · exact ensures_skip fun later => ensures_mono (grow_ensures name _) fun draft' _ done => ⟨_, done⟩
  · exact ensures_throw

theorem keys_current (loans : Loans) (provider : String) (own : Table Value) :
    Table.keys (loans.current provider own) = Table.keys own := by
  rw [Loans.current, Table.keys, List.map_map]
  rfl

theorem take_ensures (provider : Provider) (own : Table Value) :
    Ensures (fun _ => True) (draft.take provider own) fun draft' _ =>
      ∃ later, Table.keys later = Table.keys own ∧ draft'.context = Table.merge draft.context later := by
  rw [Draft.take]
  refine ensures_skip fun loans => ?_
  split
  · exact ensures_pure fun _ _ => ⟨_, keys_current loans provider.name own, rfl⟩
  · exact ensures_pure fun _ _ => ⟨_, rfl, rfl⟩

/-! Files and sections stay whole. -/

/-- The step leaves the files and the sections whole. -/
def Itemizes (draft : Draft) (step : Merging Draft) : Prop :=
  Ensures (fun _ => Itemized draft.context) step fun draft' _ => Itemized draft'.context

theorem itemizes_of {step : Merging Draft} {change : Draft → Prop}
    (done : Ensures (fun _ => True) step fun draft' _ => change draft')
    (kept : Itemized draft.context → ∀ draft', change draft' → Itemized draft'.context) : Itemizes draft step :=
  fun loans draft' left itemized ran => kept itemized _ (done loans draft' left trivial ran)

theorem append_apart {name : String} (apart : name ∉ itemNames) (items : Except Failure (List Value)) :
    Itemizes draft (draft.append name items) := by
  refine itemizes_of (append_ensures name items) fun itemized draft' grown => ?_
  obtain ⟨later, _, same⟩ := grown
  rw [same]
  exact itemized_of_same itemized (Table.same_put apart _ _)

theorem overlay_apart {name : String} (apart : name ∉ itemNames) (entries : Except Failure (Table String)) :
    Itemizes draft (draft.overlay name entries) := by
  refine itemizes_of (overlay_ensures name entries) fun itemized draft' grown => ?_
  obtain ⟨value, same⟩ := grown
  rw [same]
  exact itemized_of_same itemized (Table.same_put apart _ _)

theorem append_files (files : Except Failure (List ConfigFile)) :
    Itemizes draft (draft.append "configFiles" (return (← files).map Context.fileValue)) := by
  refine itemizes_of (append_ensures _ _) fun itemized draft' grown => ?_
  obtain ⟨later, given, same⟩ := grown
  rw [same]
  refine itemized_with_files itemized fun item member => ?_
  rcases List.mem_append.1 member with old | new
  · exact itemized.files item old
  · cases files with
    | error failure => cases given
    | ok files =>
      cases given
      obtain ⟨file, _, rfl⟩ := List.mem_map.1 new
      exact file_entire file

theorem append_sections (sections : Except Failure (List Section)) :
    Itemizes draft (draft.append "customSections" (return (← sections).map Context.sectionValue)) := by
  refine itemizes_of (append_ensures _ _) fun itemized draft' grown => ?_
  obtain ⟨later, given, same⟩ := grown
  rw [same]
  refine itemized_with_sections itemized fun item member => ?_
  rcases List.mem_append.1 member with old | new
  · exact itemized.sections item old
  · cases sections with
    | error failure => cases given
    | ok sections =>
      cases given
      obtain ⟨part, _, rfl⟩ := List.mem_map.1 new
      exact section_entire part

theorem take_apart {provider : Provider} {own : Table Value} (apart : ∀ name ∈ itemNames, name ∉ Table.keys own) :
    Itemizes draft (draft.take provider own) := by
  refine itemizes_of (take_ensures provider own) fun itemized draft' merged => ?_
  obtain ⟨later, keys, same⟩ := merged
  rw [← keys] at apart
  rw [same]
  exact itemized_of_same itemized (Table.same_merge apart _)

/-- No template variable of a provider is named like the list of files or that of sections. -/
def KeepsItems (provider : Provider) : Prop := ∀ answers findings own,
  provider.contribute answers findings .templateVariables = .ok own → ∀ name ∈ itemNames, name ∉ Table.keys own

theorem merge_itemizes {provider : Provider} (keeps : KeepsItems provider) (answers : Answers)
    (findings : Findings) : Itemizes draft (draft.merge provider (provider.contribute answers findings)) := by
  rw [Itemizes, Draft.merge]
  refine ensures_bind ensures_lift fun packages => ensures_given fun _ => ?_
  refine ensures_bind (append_apart (by decide) _) fun draft => ?_
  refine ensures_bind (append_apart (by decide) _) fun draft => ?_
  refine ensures_bind (append_files _) fun draft => ?_
  refine ensures_bind (append_sections _) fun draft => ?_
  refine ensures_bind (overlay_apart (by decide) _) fun draft => ?_
  refine ensures_bind (append_apart (by decide) _) fun draft => ?_
  refine ensures_bind ensures_lift fun own => ensures_given fun contributed => ?_
  exact take_apart (keeps answers findings own contributed)

end Handbook.Composer
