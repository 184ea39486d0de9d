import Handbook.Proofs.Builtin.Managers
import Handbook.Proofs.Builtin.Texts
import Handbook.Proofs.Document.Derived

/-!
Documents from the built-in template and the built-in providers. Whatever the providers find in the project folder is
among what they look for, so that all texts that they contribute are tidy, and so are those that are derived from the
answers. Main statement of this module: if no free answer that is shown has braces and the project folder can be looked
at, then there is a document, and no two braces of one kind stand beside each other in it.
-/

namespace Handbook.Builtin

open Composer Template Document

variable {provider : Provider} {workspace : Workspace} {answers : Answers} {composer : Composer}
  {environment : Environment} {context : Context}

/-! What is found in the project folder. -/

theorem kept_listed {α : Type} {keep : α → Except Failure Bool} {items : List α} :
    ∀ {start kept : List α}, items.filterAuxM keep start = .ok kept → ∀ item ∈ kept, item ∈ start ∨ item ∈ items := by
  induction items with
  | nil =>
    intro start kept same item member
    cases same
    exact .inl member
  | cons first rest ih =>
    intro start kept same item member
    rw [List.filterAuxM] at same
    cases decided : keep first with
    | error failure =>
      rw [decided] at same
      cases same
    | ok keeps =>
      rw [decided] at same
      rcases ih same item member with inside | later
      · cases keeps with
        | false => exact .inl inside
        | true => exact (List.mem_cons.1 inside).elim (fun here => .inr (List.mem_cons.2 (.inl here))) .inl
      · exact .inr (List.mem_cons_of_mem first later)

theorem filtered_listed {α : Type} {keep : α → Except Failure Bool} {items kept : List α}
    (same : items.filterM keep = .ok kept) : kept ⊆ items := by
  rw [List.filterM] at same
  cases going : items.filterAuxM keep [] with
  | error failure =>
    rw [going] at same
    cases same
  | ok backwards =>
    rw [going] at same
    cases same
    intro item member
    -- What is kept has been gathered backwards.
    rcases kept_listed going item (List.mem_reverse.1 member) with none | listed
    · cases none
    · exact listed

theorem existing_listed {root : Option String} {names found : List String}
    (looked : workspace.existing root names = .ok found) : found ⊆ names := by
  cases root with
  | none =>
    cases looked
    exact List.nil_subset names
  | some folder =>
    unfold Workspace.existing at looked
    dsimp only at looked
    cases here : workspace.isFolder (Workspace.Path.ofString folder) with
    | error failure =>
      rw [here] at looked
      cases looked
    | ok present =>
      rw [here] at looked
      cases present with
      | false =>
        cases looked
        exact List.nil_subset names
      | true => exact filtered_listed looked

/-- A provider finds a package manager, or files that may hold settings of Pytest, or nothing. -/
theorem findings_listed (member : provider ∈ all) (workspace : Workspace) (answers : Answers) :
    managerOf answers (findingsOf workspace answers provider) ∈ packageManagers ∧
      (findingsOf workspace answers provider).existingFiles ⊆ pytestSettings := by
  have fallback : managerOf answers {} ∈ packageManagers := chosen_listed answers npm_listed
  obtain ⟨descriptor, rejected, prepare, contribution, rfl, rfl | rfl | rfl⟩ := all_ordinary provider member
  · change managerOf answers ((findManager workspace answers {}).toOption.getD {}) ∈ packageManagers ∧
      ((findManager workspace answers {}).toOption.getD {}).existingFiles ⊆ pytestSettings
    rw [findManager]
    split
    · exact ⟨fallback, List.nil_subset _⟩
    · cases looked : workspace.packageManager answers.projectRoot with
      | error failure => exact ⟨fallback, List.nil_subset _⟩
      | ok found =>
        cases found with
        | none => exact ⟨fallback, List.nil_subset _⟩
        | some manager => exact ⟨manager_listed looked, List.nil_subset _⟩
  · change managerOf answers ((findPytestSettings workspace answers {}).toOption.getD {}) ∈ packageManagers ∧
      ((findPytestSettings workspace answers {}).toOption.getD {}).existingFiles ⊆ pytestSettings
    rw [findPytestSettings]
    cases looked : workspace.existing answers.projectRoot pytestSettings with
    | error failure => exact ⟨fallback, List.nil_subset _⟩
    | ok found => exact ⟨fallback, existing_listed looked⟩
  · exact ⟨fallback, List.nil_subset _⟩

theorem found_neat (member : provider ∈ all) (workspace : Workspace) (answers : Answers) :
    Neat (contribution provider answers (findingsOf workspace answers provider)) :=
  contribution_neat member (findings_listed member workspace answers).1 (findings_listed member workspace answers).2

/-! What a document is made of can be presented. -/

section

variable (standard : Catalog.ofList all = .ok composer.catalog)

include standard

theorem offers_neat (environment : Environment) (answers : Answers) :
    ∀ offer ∈ offersOf composer environment answers, Neat offer := by
  intro offer member
  obtain ⟨provider, asks, rfl⟩ := List.mem_map.1 member
  have builtin := asked_builtin standard asks
  rw [contribution_of_eq builtin]
  exact found_neat builtin environment.workspace answers

/-- A part that the first provider of a category contributes is that of a built-in provider. -/
theorem part_of_first {category : Category} {part : Part} {content : part.Content}
    (given : partOfFirst answers ((asked composer.catalog answers).map (boundOf workspace answers)) category part
      = some content) :
    ∃ provider ∈ all, content = (contribution provider answers (findingsOf workspace answers provider)).part part := by
  obtain ⟨first, chosen, rfl⟩ := Option.map_eq_some_iff.1 given
  obtain ⟨provider, asks, rfl⟩ := List.mem_map.1 (List.mem_of_find?_eq_some chosen)
  have builtin := asked_builtin standard asks
  exact ⟨provider, builtin, contributed_of_ok (contributes builtin answers _ part)⟩

theorem derived_texts_presentable (plain : HasNoBraces answers) (environment : Environment) (loans : Loans) :
    ∀ name ∈ derivedTexts,
      HasText (derivedFrom environment composer.settings answers loans (asked composer.catalog answers)) name := by
  refine derived_texts_tidy plain _ _ ?_ ?_ ?_
  · intro tree given
    obtain ⟨provider, member, rfl⟩ := part_of_first standard given
    exact (found_neat member environment.workspace answers).tree
  · intro strategy given
    obtain ⟨provider, member, same⟩ := part_of_first standard (Option.join_eq_some_iff.1 given)
    exact (found_neat member environment.workspace answers).strategy strategy (Option.mem_toList.2 same.symm)
  · intro design given
    obtain ⟨provider, member, same⟩ := part_of_first standard (Option.join_eq_some_iff.1 given)
    exact (found_neat member environment.workspace answers).design design (Option.mem_toList.2 same.symm)

end

theorem standing_texts {settings : Settings} (version : Braceless settings.version) (plain : HasNoBraces answers)
    (date : Calendar.Date) : ∀ name ∈ ["version", "profileName", "date", "packageManager"],
      HasText (Context.start settings date.text answers) name := by
  have profile : TidyAnswer answers.profileName :=
    fun text held => tidy_of_no_brace (plain answers.profileName (by simp) text held)
  simp only [List.forall_mem_cons]
  refine ⟨⟨_, rfl, ?_⟩, ⟨_, rfl, ?_⟩, ⟨_, rfl, ?_⟩, ⟨_, rfl, ?_⟩, List.forall_mem_nil _⟩
  · exact tidy_of_no_brace version
  · exact tidy_or (tidy_given profile) (tidy_of_neat (by decide))
  · exact date_tidy date
  · exact tidy_manager (chosen_listed answers settings.packageManager.listed)

theorem commands_tidy {settings : Settings} {offers : List Contribution} (neat : ∀ offer ∈ offers, Neat offer) :
    ∀ command ∈ gatheredCommands settings answers offers, Tidy command.1 ∧ Tidy command.2 := by
  have common : ∀ manager ∈ packageManagers, ∀ command ∈ commonCommands manager,
      Template.neat command.1 = true ∧ Template.neat command.2 = true := by decide
  intro command member
  rcases Table.mem_merge member with first | later
  · have clean := common _ (chosen_listed answers settings.packageManager.listed) command first
    exact ⟨tidy_of_neat clean.1, tidy_of_neat clean.2⟩
  · obtain ⟨offer, offered, listed⟩ := List.mem_flatMap.1 later
    exact (neat offer offered).commands command listed

theorem dated_by {date : String} (dated : environment.dateText = .ok date) : date = environment.now.date.text := by
  rw [Environment.dateText] at dated
  split at dated
  · cases dated
    rfl
  · cases dated

theorem texts_gathered {offers : List Contribution} {name : String} {part : Contribution → List String}
    (found : context.get? name = some (.list (offers.flatMap fun offer => (part offer).map .str)))
    (tidy : ∀ offer ∈ offers, ∀ text ∈ part offer, Tidy text) : HasTexts context name := by
  refine ⟨offers.flatMap part, ?_, fun text member => ?_⟩
  · rw [found, Value.strings, List.map_flatMap]
  · obtain ⟨offer, offered, inside⟩ := List.mem_flatMap.1 member
    exact tidy offer offered text inside

theorem guidelines_gathered {offers : List Contribution} (neat : ∀ offer ∈ offers, Neat offer) {name : String}
    (found : context.get? name
      = some (.list (commonGuidelines.map .str ++ offers.flatMap fun offer => offer.securityGuidelines.map .str))) :
    HasTexts context name := by
  have common : ∀ text ∈ commonGuidelines, Template.neat text = true := by decide +kernel
  refine ⟨commonGuidelines ++ offers.flatMap (·.securityGuidelines), ?_, fun text member => ?_⟩
  · rw [found, Value.strings, List.map_append, List.map_flatMap]
  · rcases List.mem_append.1 member with first | later
    · exact tidy_of_neat (common text first)
    · obtain ⟨offer, offered, inside⟩ := List.mem_flatMap.1 later
      exact (neat offer offered).guidelines text inside

/-- What gathers tidy contributions has all entries that the page reads. -/
theorem collected_presentable (standard : Catalog.ofList all = .ok composer.catalog)
    (version : Braceless composer.settings.version) (plain : HasNoBraces answers)
    (collected : Collected composer environment answers context) : Presentable context := by
  obtain ⟨date, dated, gathers⟩ := collected
  rw [dated_by dated] at gathers
  have neat := offers_neat standard environment answers
  constructor
  case texts =>
    have sources : ∀ name ∈ textEntries, name ∈ ["version", "profileName", "date", "packageManager"] ∨
        name ∈ derivedTexts := by decide
    have listed : ∀ name ∈ derivedTexts, name ∈ derivedNames := by decide
    intro name member
    rcases sources name member with standing | derives
    · rw [HasText, standing_entry standard gathers (List.mem_cons_of_mem _ standing)]
      exact standing_texts version plain environment.now.date name standing
    · rw [HasText, gathers.derived name (listed name derives)]
      exact derived_texts_presentable standard plain environment composer.loans name derives
  case lists =>
    have labels (name : String) (listed : name ∈ ["codeStyleLabels", "behaviorLabels"]) (derives : name ∈ derivedNames) :
        HasTexts context name := by
      rw [HasTexts, gathers.derived name derives]
      exact derived_lists_tidy answers _ _ _ _ _ name listed
    simp only [listEntries, List.forall_mem_cons]
    refine ⟨?_, ?_, ?_, ?_, ?_, List.forall_mem_nil _⟩
    · exact texts_gathered gathers.production fun offer offered => (neat offer offered).production
    · exact texts_gathered gathers.development fun offer offered => (neat offer offered).development
    · exact labels "codeStyleLabels" (by decide) (by decide)
    · exact labels "behaviorLabels" (by decide) (by decide)
    · exact guidelines_gathered neat gathers.guidelines
  case records =>
    simp only [recordEntries, List.forall_mem_cons]
    refine ⟨⟨_, gathers.commandList, ?_⟩, ⟨_, gathers.files, ?_⟩, ⟨_, gathers.sections, ?_⟩, List.forall_mem_nil _⟩
    · intro item member
      obtain ⟨command, listed, rfl⟩ := List.mem_map.1 member
      have tidy := commands_tidy neat command listed
      exact @tidy_record [("name", command.1), ("command", command.2)]
        (show ["name", "command"].Nodup by decide) (by simpa using tidy)
    · intro item member
      obtain ⟨offer, offered, inside⟩ := List.mem_flatMap.1 member
      obtain ⟨file, listed, rfl⟩ := List.mem_map.1 inside
      have tidy := (neat offer offered).files file listed
      exact @tidy_record [("name", file.name), ("language", file.language), ("content", file.content)]
        (show ["name", "language", "content"].Nodup by decide) (by simpa using tidy)
    · intro item member
      obtain ⟨offer, offered, inside⟩ := List.mem_flatMap.1 member
      obtain ⟨part, listed, rfl⟩ := List.mem_map.1 inside
      have tidy := (neat offer offered).sections part listed
      exact @tidy_record [("title", part.title), ("content", part.content)]
        (show ["title", "content"].Nodup by decide) (by simpa using tidy)

/-! Documents. -/

/-- The providers can look at the project folder, as far as they do. -/
def Explorable (workspace : Workspace) (answers : Answers) (providers : List Provider) : Prop :=
  ∀ provider ∈ providers, ∃ findings, provider.prepare workspace answers {} = .ok findings

/-- Built-in providers can look at a folder that tells its lockfile and its settings of Pytest. -/
theorem explorable_of_looks {providers : List Provider} (builtin : providers ⊆ all) {manager : Option String}
    {settings : List String} (looked : workspace.packageManager answers.projectRoot = .ok manager)
    (looked' : workspace.existing answers.projectRoot pytestSettings = .ok settings) :
    Explorable workspace answers providers := by
  intro provider member
  cases found : provider.prepare workspace answers {} with
  | ok findings => exact ⟨findings, rfl⟩
  | error failure =>
    rcases fails_looking (builtin member) (.inl found) with lost | lost
    · rw [looked] at lost
      cases lost
    · rw [looked'] at lost
      cases lost

section

variable (standard : Catalog.ofList all = .ok composer.catalog) (builtIn : composer.settings.templatePath = none)
  (joins : composer.engine.helpers.get? "join" = some joinHelper) (version : Braceless composer.settings.version)
  {entries : Table Value} (accepted : Answers.ofEntries entries = .ok answers) (plain : HasNoBraces answers)

include standard builtIn joins version accepted plain

theorem markdown_single {product : Product} (generated : (composer.generate environment (.record entries)).1 = .ok product) :
    (composer.engine.render page product.context).1 = .ok product.markdown ∧ Single product.markdown := by
  obtain ⟨collected, _⟩ := document_collected standard accepted generated
  obtain ⟨text, rendered, tidy⟩ := page_presented joins (collected_presentable standard version plain collected)
  rcases outcome : composer.generate environment (.record entries) with ⟨result, composer', events⟩
  rw [outcome] at generated
  cases generated
  obtain ⟨_, _, _, _, composed⟩ := generated_composed builtIn outcome
  have same : product.markdown = text := Except.ok.inj (composed.rendered.symm.trans rendered)
  rw [same]
  exact ⟨rendered, single_of_tidy tidy⟩

theorem nothing_hinders (dated : environment.now.date.hasName = true)
    (valid : (Verdict.ofEntries entries).isValid = true)
    (explorable : Explorable environment.workspace answers (asked composer.catalog answers)) :
    ¬ Hindrance composer environment entries := by
  have same {answers' : Answers} (accepted' : Answers.ofEntries entries = .ok answers') : answers' = answers := by
    rw [accepted] at accepted'
    cases accepted'
    rfl
  intro hindered
  cases hindered with
  | invalid violated =>
    rw [valid] at violated
    cases violated
  | resistance accepted' resists =>
    obtain rfl := same accepted'
    exact never_resists (fun provider asks => asked_builtin standard asks) _ _ resists
  | objection accepted' objects => exact never_objects standard _ _ objects
  | undated lost =>
    rw [Environment.dateText, if_pos dated] at lost
    cases lost
  | provider accepted' blames =>
    obtain rfl := same accepted'
    obtain ⟨provider, asks, failure, lost | ⟨part, lost⟩, _⟩ := blames
    · obtain ⟨findings, found⟩ := explorable provider asks
      rw [found] at lost
      cases lost
    · rw [contributes (asked_builtin standard asks)] at lost
      cases lost
  | template given =>
    rw [builtIn] at given
    cases given
  | rendering accepted' collected loads lost =>
    obtain rfl := same accepted'
    obtain ⟨text, rendered, _⟩ := page_presented joins (collected_presentable standard version plain collected)
    rw [Loads, builtIn] at loads
    rw [loads, rendered] at lost
    cases lost

/-- With the built-in providers and the built-in template, valid answers without braces in what they are free to say
always lead to a document. It is the template, rendered with all that the providers contribute, and it has no doubled
braces. -/
theorem document_complete (dated : environment.now.date.hasName = true)
    (valid : (Verdict.ofEntries entries).isValid = true)
    (explorable : Explorable environment.workspace answers (asked composer.catalog answers)) :
    ∃ product, (composer.generate environment (.record entries)).1 = .ok product ∧
      Collected composer environment answers product.context ∧
      (composer.engine.render page product.context).1 = .ok product.markdown ∧ Single product.markdown := by
  rcases generate_made (asked_apart standard environment.workspace) entries with ⟨product, _, generated, _⟩ | ⟨_, hindered⟩
  · have collected := (document_collected standard accepted generated).1
    exact ⟨product, generated, collected, markdown_single standard builtIn joins version accepted plain generated⟩
  · exact absurd hindered (nothing_hinders standard builtIn joins version accepted plain dated valid explorable)

end

/-! A page in all roles, in the folder with a lockfile of Yarn. -/

def wholePage : Table Value :=
  [("projectType", .str "fullstack"), ("stack", .str "t3"), ("database", .str "postgresql"), ("testing", .str "jest"),
    ("styling", .str "tailwind"), ("profileName", .str "team"), ("projectRoot", .str ".")]

def pageComposer : Composer := { standardComposer with settings := Settings.default }

theorem document_complete_whole : ∃ product,
    (pageComposer.generate lockedFolder (.record wholePage)).1 = .ok product ∧
      Collected pageComposer lockedFolder (answersOf wholePage) product.context ∧
      (pageComposer.engine.render page product.context).1 = .ok product.markdown ∧ Single product.markdown := by
  have accepted : Answers.ofEntries wholePage = .ok (answersOf wholePage) := accepted_of (by decide)
  have version : Braceless pageComposer.settings.version := by decide
  have plain : HasNoBraces (answersOf wholePage) := by
    unfold HasNoBraces
    decide +kernel
  have builtin : asked pageComposer.catalog (answersOf wholePage) ⊆ all :=
    fun provider asks => asked_builtin standard_made asks
  have looked : lockedFolder.workspace.packageManager (some ".") = .ok (some "yarn") := rfl
  have looked' : lockedFolder.workspace.existing (some ".") pytestSettings = .ok [] := rfl
  exact document_complete standard_made rfl rfl version accepted plain (by decide) (by decide +kernel)
    (explorable_of_looks builtin looked looked')

end Handbook.Builtin
