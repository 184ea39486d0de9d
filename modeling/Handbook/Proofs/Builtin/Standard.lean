import Handbook.Builtin.All
import Handbook.Proofs.Catalog
import Handbook.Proofs.Composer.Hooks
import Handbook.Proofs.Composer.Making

/-!
The catalog of the built-in providers. It finds each of them under its name and nothing else, so that the provider of
every role is known from the answers. None of them fails to be bound, to contribute or to say what it goes with, and
none lends.
-/

namespace Handbook

/-! A catalog that is made from a list. -/

namespace Catalog

theorem of_list_from {catalog : Catalog} (providers : List Provider) : ∀ start : Catalog, Indexed start →
    providers.foldlM register start = .ok catalog → Indexed catalog ∧ catalog.all = start.all ++ providers := by
  induction providers with
  | nil =>
    intro start indexed made
    cases made
    exact ⟨indexed, (List.append_nil _).symm⟩
  | cons provider rest ih =>
    intro start indexed made
    rw [List.foldlM_cons] at made
    cases done : start.register provider with
    | error fault =>
      rw [done] at made
      cases made
    | ok next =>
      rw [done] at made
      obtain ⟨indexed', all'⟩ := ih next (indexed_register indexed done) made
      obtain ⟨free, _, category, _, rfl⟩ := register_ok.1 done
      have absent : provider.name ∉ start.byName.keys := by
        rw [← Table.has_iff, ← has, free]
        exact Bool.false_ne_true
      refine ⟨indexed', ?_⟩
      rw [all', all, Table.put_of_absent absent, List.map_append, List.append_assoc]
      rfl

/-- A catalog that is made from a list finds the providers of the list by their names. -/
theorem get?_of_list {providers : List Provider} {catalog : Catalog} (made : ofList providers = .ok catalog)
    (name : String) (provider : Provider) :
    catalog.get? name = some provider ↔ provider ∈ providers ∧ provider.name = name := by
  obtain ⟨indexed, same⟩ := of_list_from providers empty indexed_empty made
  change catalog.all = providers at same
  rw [← same]
  constructor
  · intro found
    exact ⟨List.mem_map.2 ⟨_, Table.mem_of_get? found, rfl⟩, (described_of_get? indexed found).1⟩
  · rintro ⟨member, rfl⟩
    exact Table.get?_of_mem indexed.distinct (name_mem indexed member)

end Catalog

namespace Builtin

open Composer

/-! What the built-in providers have in common. -/

/-- Never fails to be bound or to contribute, lends nothing, and looks for a lockfile, for settings of Pytest, or for
nothing. -/
def IsOrdinary (provider : Provider) : Prop :=
  ∃ descriptor rejected prepare contribution, provider = Provider.reliable descriptor rejected prepare contribution ∧
    (prepare = findManager ∨ prepare = findPytestSettings ∨ prepare = Provider.noPreparation)

theorem all_ordinary : ∀ provider ∈ all, IsOrdinary provider := by
  intro provider member
  simp only [all, List.mem_cons, List.not_mem_nil, or_false] at member
  rcases member with rfl | rfl | rfl | rfl | rfl | rfl | rfl | rfl | rfl | rfl | rfl | rfl | rfl | rfl | rfl | rfl | rfl
    | rfl | rfl | rfl | rfl | rfl
  all_goals
    first
    | exact ⟨_, _, _, _, rfl, .inl rfl⟩
    | exact ⟨_, _, _, _, rfl, .inr (.inl rfl)⟩
    | exact ⟨_, _, _, _, rfl, .inr (.inr rfl)⟩

/-- What a provider contributes. -/
def contribution (provider : Provider) (answers : Answers) (findings : Findings) : Contribution :=
  offered [] provider (provider.contribute answers findings)

variable {provider : Provider} {workspace : Workspace} {answers : Answers} {findings : Findings}

theorem contributes (member : provider ∈ all) (answers : Answers) (findings : Findings) (part : Part) :
    provider.contribute answers findings part = .ok ((contribution provider answers findings).part part) := by
  obtain ⟨descriptor, rejected, prepare, contribution, rfl, _⟩ := all_ordinary provider member
  cases part <;> rfl

theorem contribution_of_eq (member : provider ∈ all) (workspace : Workspace) (answers : Answers) (loans : Loans) :
    contributionOf workspace answers loans provider
      = contribution provider answers (findingsOf workspace answers provider) := by
  obtain ⟨descriptor, rejected, prepare, contribution, rfl, _⟩ := all_ordinary provider member
  rfl

theorem accepts (member : provider ∈ all) (other : String) (failure : Failure) :
    provider.accepts other ≠ .error failure := by
  obtain ⟨descriptor, rejected, prepare, contribution, rfl, _⟩ := all_ordinary provider member
  intro objects
  cases objects

theorem never_resists {providers : List Provider} (builtin : providers ⊆ all) (answers : Answers) (failure : Failure) :
    ¬ Resists answers providers failure := by
  rintro ⟨provider, member, resists⟩
  obtain ⟨descriptor, rejected, prepare, contribution, rfl, _⟩ := all_ordinary provider (builtin member)
  cases resists

/-- A built-in provider fails only where looking at the project folder fails. -/
theorem fails_looking (member : provider ∈ all) {failure : Failure} (fails : Fails workspace answers provider failure) :
    workspace.packageManager answers.projectRoot = .error failure ∨
      workspace.existing answers.projectRoot pytestSettings = .error failure := by
  rcases fails with lost | ⟨part, lost⟩
  · obtain ⟨descriptor, rejected, prepare, contribution, rfl, rfl | rfl | rfl⟩ := all_ordinary provider member
    · change findManager workspace answers {} = .error failure at lost
      rw [findManager] at lost
      split at lost
      · cases lost
      · left
        cases looked : workspace.packageManager answers.projectRoot with
        | error other =>
          rw [looked] at lost
          cases lost
          rfl
        | ok found =>
          rw [looked] at lost
          cases found <;> cases lost
    · change findPytestSettings workspace answers {} = .error failure at lost
      right
      rw [findPytestSettings] at lost
      cases looked : workspace.existing answers.projectRoot pytestSettings with
      | error other =>
        rw [looked] at lost
        cases lost
        rfl
      | ok found =>
        rw [looked] at lost
        cases lost
    · cases lost
  · rw [contributes member] at lost
    cases lost

/-! The names of template variables do not depend on the answers. -/

theorem keys_variables (member : provider ∈ all) (answers : Answers) (findings : Findings) :
    (contribution provider answers findings).templateVariables.keys
      = (contribution provider Answers.none {}).templateVariables.keys := by
  simp only [all, List.mem_cons, List.not_mem_nil, or_false] at member
  rcases member with rfl | rfl | rfl | rfl | rfl | rfl | rfl | rfl | rfl | rfl | rfl | rfl | rfl | rfl | rfl | rfl | rfl
    | rfl | rfl | rfl | rfl | rfl <;> rfl

/-- The names that template variables of built-in providers must keep away from: the entries that the page reads and
that are neither gathered nor derived, and the gathered ones. -/
def takenNames : List String := ["config", "version", "profileName", "date", "packageManager"] ++ mergedNames

theorem variables_apart (member : provider ∈ all) (answers : Answers) (findings : Findings) :
    ∀ name ∈ takenNames, name ∉ (contribution provider answers findings).templateVariables.keys := by
  rw [keys_variables member]
  revert provider
  decide

theorem keeps_apart (member : provider ∈ all) : KeepsApart workspace answers provider := by
  intro own given name taken
  rw [contributes member] at given
  cases given
  exact variables_apart member _ _ name (List.mem_append_right _ taken)

/-! The catalog. -/

variable {catalog : Catalog} (standard : Catalog.ofList all = .ok catalog)

include standard

theorem selected_iff {role : Role} : role.selected catalog answers = some provider ↔
    provider ∈ all ∧ role.candidate answers = some provider.name := by
  rw [Role.selected, Option.bind_eq_some_iff]
  constructor
  · rintro ⟨name, wanted, found⟩
    obtain ⟨member, named⟩ := (Catalog.get?_of_list standard name provider).1 found
    rw [named]
    exact ⟨member, wanted⟩
  · rintro ⟨member, wanted⟩
    exact ⟨provider.name, wanted, (Catalog.get?_of_list standard provider.name provider).2 ⟨member, rfl⟩⟩

theorem asked_builtin (asks : provider ∈ asked catalog answers) : provider ∈ all := by
  rw [asked_eq, List.mem_filterMap] at asks
  obtain ⟨role, _, selected⟩ := asks
  exact ((selected_iff standard).1 selected).1

theorem asked_apart (workspace : Workspace) : ∀ answers, ∀ provider ∈ asked catalog answers,
    KeepsApart workspace answers provider :=
  fun _ _ asks => keeps_apart (asked_builtin standard asks)

/-- The built-in providers can always be compared. -/
theorem never_objects (names : List String) (failure : Failure) : ¬ Objects (names.filterMap catalog.get?) failure := by
  have builtin : names.filterMap catalog.get? ⊆ all := by
    intro provider member
    obtain ⟨name, _, found⟩ := List.mem_filterMap.1 member
    exact ((Catalog.get?_of_list standard name provider).1 found).1
  rintro (resists | ⟨first, member, second, _, objects⟩)
  · exact never_resists builtin _ failure resists
  · exact accepts (builtin member) _ _ objects

/-! Which provider is selected in which role. -/

theorem stack_selected : Role.stack.selected catalog answers = some provider ↔
    provider ∈ all ∧ answers.stack = some provider.name := by
  rw [selected_iff standard, Role.candidate, Option.filter_eq_some_iff]
  constructor
  · rintro ⟨member, answered, _⟩
    exact ⟨member, answered⟩
  · rintro ⟨member, answered⟩
    have eligible : ∀ provider ∈ all, (!List.contains ["", "custom"] provider.name) = true := by decide
    exact ⟨member, answered, eligible provider member⟩

theorem get?_standard (name : String) : catalog.get? name = all.find? fun provider => provider.name = name := by
  cases found : all.find? fun provider => provider.name = name with
  | none =>
    cases kept : catalog.get? name with
    | none => rfl
    | some provider =>
      obtain ⟨member, named⟩ := (Catalog.get?_of_list standard name provider).1 kept
      exact absurd (decide_eq_true named) (List.find?_eq_none.1 found provider member)
  | some provider =>
    have named : provider.name = name := by simpa using List.find?_some found
    exact (Catalog.get?_of_list standard name provider).2 ⟨List.mem_of_find?_eq_some found, named⟩

/-- The provider that goes with a choice is that of a table, if they agree on all that can be chosen. -/
theorem companion_selected {names barred : List String} {companions : Table Provider}
    (agree : ∀ name ∈ names, (if barred.contains name then none
      else all.find? fun provider => provider.name = name ++ "-plugin") = companions.get? name)
    (choice : Option (OneOf names)) :
    (((Answers.chosen choice).filter fun name => !barred.contains name).map (· ++ "-plugin")).bind catalog.get?
      = (Answers.chosen choice).bind companions.get? := by
  rcases choice with _ | ⟨name, listed⟩
  · rfl
  · rw [Answers.chosen, Option.map_some, Option.bind_some, ← agree name listed]
    cases out : barred.contains name with
    | true => simp only [Option.filter_some, out, Bool.not_true, Bool.false_eq_true, if_false, if_true]; rfl
    | false => simp only [Option.filter_some, out, Bool.not_false, if_true, Option.map_some, Option.bind_some,
        get?_standard standard, Bool.false_eq_true, if_false]

theorem database_selected : Role.database.selected catalog answers
    = answers.database.bind (Table.get? [("postgresql", postgresql), ("mongodb", mongodb)]) := by
  apply companion_selected standard
  simp only [List.forall_mem_cons]
  exact ⟨rfl, rfl, rfl, rfl, rfl, rfl, rfl, rfl, nofun⟩

theorem testing_selected : Role.testing.selected catalog answers
    = answers.testing.bind (Table.get? [("jest", jest), ("pytest", pytest)]) := by
  apply companion_selected standard
  simp only [List.forall_mem_cons]
  exact ⟨rfl, rfl, rfl, rfl, rfl, rfl, rfl, rfl, nofun⟩

theorem styling_selected : Role.styling.selected catalog answers
    = answers.styling.bind (Table.get? [("tailwind", tailwind)]) := by
  apply companion_selected standard
  simp only [List.forall_mem_cons]
  exact ⟨rfl, rfl, rfl, rfl, rfl, rfl, nofun⟩

omit standard

/-! What a document is made of, role by role. -/

/-- What the provider in a role contributes to one of the lists. -/
def partIn {α : Type} (part : Contribution → List α) (catalog : Catalog) (workspace : Workspace) (answers : Answers)
    (role : Role) : List α :=
  match role.selected catalog answers with
  | none => []
  | some provider => part (contribution provider answers (findingsOf workspace answers provider))

theorem parts_by_role {composer : Composer} (standard : Catalog.ofList all = .ok composer.catalog)
    (environment : Environment) (answers : Answers) {α : Type} (part : Contribution → List α) :
    (offersOf composer environment answers).flatMap part
      = Role.all.flatMap (partIn part composer.catalog environment.workspace answers) := by
  rw [offersOf, asked_eq, List.flatMap_map]
  induction Role.all with
  | nil => rfl
  | cons role rest ih =>
    rw [List.filterMap_cons, List.flatMap_cons, ← ih, partIn]
    cases selected : role.selected composer.catalog answers with
    | none => rfl
    | some provider =>
      rw [List.flatMap_cons, contribution_of_eq ((selected_iff standard).1 selected).1]

/-- A document from the built-in providers is made of what they contribute. -/
theorem document_collected {composer : Composer} (standard : Catalog.ofList all = .ok composer.catalog)
    {environment : Environment} {entries : Table Value} {answers : Answers} {product : Product}
    (accepted : Answers.ofEntries entries = .ok answers)
    (generated : (composer.generate environment (.record entries)).1 = .ok product) :
    Collected composer environment answers product.context ∧
      product.files = (offersOf composer environment answers).flatMap (·.configFiles) := by
  rcases generate_made (asked_apart standard environment.workspace) entries with
    ⟨product', answers', made, accepted', collected⟩ | ⟨⟨fault, lost⟩, _⟩
  · rw [generated] at made
    cases made
    rw [accepted] at accepted'
    cases accepted'
    exact collected
  · rw [generated] at lost
    cases lost

/-- The entries that are neither gathered nor derived are those that every document starts with. -/
theorem standing_entry {composer : Composer} (standard : Catalog.ofList all = .ok composer.catalog)
    {environment : Environment} {answers : Answers} {date : String} {derived : Table Value} {context : Context}
    (gathers : Gathers composer.settings date answers (offersOf composer environment answers) derived context)
    {name : String} (standing : name ∈ ["config", "version", "profileName", "date", "packageManager"]) :
    context.get? name = (Context.start composer.settings date answers).get? name := by
  have apart : ∀ name ∈ ["config", "version", "profileName", "date", "packageManager"],
      name ∉ mergedNames ∧ name ∉ derivedNames := by decide
  have absent : name ∉ Table.keys ((offersOf composer environment answers).flatMap (·.templateVariables)) := by
    rw [Table.keys, List.map_flatMap, List.mem_flatMap]
    rintro ⟨offer, offered, named⟩
    obtain ⟨provider, asks, rfl⟩ := List.mem_map.1 offered
    rw [contribution_of_eq (asked_builtin standard asks)] at named
    exact variables_apart (asked_builtin standard asks) _ _ name (List.mem_append_left _ standing) named
  rw [gathers.others name (apart name standing).1 (apart name standing).2, Table.latest?_of_absent absent,
    Option.none_or]

/-! A composer with the built-in providers, and a folder that holds the one line of its template. -/

def standardCatalog : Catalog := (Catalog.ofList all).toOption.getD Catalog.empty

theorem standard_made : Catalog.ofList all = .ok standardCatalog := rfl

def standardComposer : Composer where
  catalog := standardCatalog
  engine := Template.Engine.new
  cache := []
  settings := { Settings.default with templatePath := some ⟨.here, ["template.md"]⟩ }
  loans := []

def templateWorkspace : Workspace := Workspace.empty.put ["work", "template.md"] (.file "# Setup\n".toUTF8.toList)

def templateFolder : Environment := ⟨templateWorkspace, [], ⟨0⟩⟩

end Builtin

end Handbook
