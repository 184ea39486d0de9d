import Handbook.Proofs.Builtin.Standard
import Handbook.Proofs.Composer.Literal

/-!
Roles. Every role is meant for providers of one category. The names of companions are made from choices, but a stack is
asked for by the very name of its provider, whatever provider that is. Main statement of this module: there is at most
one provider in each role, of the category of the role and in the order of the roles, if and only if the stack that is
asked for is not a companion; and a provider that is selected in two roles has two turns.
-/

namespace Handbook

namespace Composer

variable {catalog : Catalog} {answers : Answers} {providers : List Provider}

namespace Role

def companions : List Role := [.database, .testing, .styling]

/-- The category of the providers that the role is meant for. -/
def category : Role → Category
  | .stack => .stack
  | .database => .database
  | .testing => .testing
  | .styling => .styling

/-- The provider that is selected in the role, if there is one, is of its category. -/
def Suits (catalog : Catalog) (answers : Answers) (role : Role) : Prop :=
  ∀ provider, role.selected catalog answers = some provider → provider.descriptor.category = .known role.category

end Role

def categories (providers : List Provider) : List CategoryTag :=
  providers.map fun provider => provider.descriptor.category

/-- The answers ask for at most one provider in each role. -/
structure OnePerRole (catalog : Catalog) (answers : Answers) : Prop where
  distinct : ((asked catalog answers).map Provider.name).Nodup
  inOrder : (categories (asked catalog answers)).Sublist (Role.all.map fun role => .known role.category)
  suits : Role.stack.Suits catalog answers

/-- The stack is also selected as a companion. -/
def Doubled (catalog : Catalog) (answers : Answers) : Prop :=
  ∃ provider, Role.stack.selected catalog answers = some provider ∧
    ∃ role ∈ Role.companions, role.selected catalog answers = some provider

theorem categories_in_order {roles : List Role} (suit : ∀ role ∈ roles, role.Suits catalog answers) :
    (categories (roles.filterMap (Role.selected catalog answers))).Sublist
      (roles.map fun role => .known role.category) := by
  induction roles with
  | nil => exact .slnil
  | cons role later ih =>
    have rest := ih fun other member => suit other (List.mem_cons_of_mem role member)
    rw [List.filterMap_cons, List.map_cons]
    cases selected : role.selected catalog answers with
    | none => exact rest.cons _
    | some provider =>
      rw [categories, List.map_cons, suit role List.mem_cons_self provider selected]
      exact rest.cons_cons _

/-- Providers of the categories of distinct roles are distinct. -/
theorem selected_nodup {roles : List Role} (distinct : (roles.map fun role => CategoryTag.known role.category).Nodup)
    (suit : ∀ role ∈ roles, role.Suits catalog answers) :
    (roles.filterMap (Role.selected catalog answers)).Nodup :=
  List.Nodup.of_map _ (distinct.sublist (categories_in_order suit))

/-- Providers that a catalog finds under their names have as many names as they are. -/
theorem names_nodup_iff (found : ∀ provider ∈ providers, catalog.get? provider.name = some provider) :
    (providers.map Provider.name).Nodup ↔ providers.Nodup := by
  constructor
  · exact List.Nodup.of_map _
  · apply List.Nodup.map_on
    intro first member second member' same
    have looked := found first member
    rw [same, found second member', Option.some.injEq] at looked
    exact looked.symm

theorem asked_cons (catalog : Catalog) (answers : Answers) : asked catalog answers
    = (Role.stack.selected catalog answers).toList ++ Role.companions.filterMap (Role.selected catalog answers) := by
  rw [asked_eq, Role.all, List.filterMap_cons]
  cases Role.stack.selected catalog answers <;> rfl

section

variable (suit : ∀ role ∈ Role.companions, role.Suits catalog answers)

include suit

-- Companions differ in their categories, so that only the stack can be one of the others.
theorem asked_nodup_iff : (asked catalog answers).Nodup ↔ ¬ Doubled catalog answers := by
  have companions : (Role.companions.filterMap (Role.selected catalog answers)).Nodup :=
    selected_nodup (by decide) suit
  rw [asked_cons, Doubled]
  cases selected : Role.stack.selected catalog answers with
  | none =>
    refine ⟨fun _ doubled => ?_, fun _ => companions⟩
    obtain ⟨provider, none, _⟩ := doubled
    cases none
  | some stack =>
    rw [Option.toList_some, List.singleton_append, List.nodup_cons, List.mem_filterMap]
    constructor
    · rintro ⟨apart, _⟩ ⟨provider, same, double⟩
      cases same
      exact apart double
    · intro apart
      exact ⟨fun double => apart ⟨stack, rfl, double⟩, companions⟩

theorem one_per_role_of_stack (found : ∀ provider ∈ asked catalog answers, catalog.get? provider.name = some provider) :
    OnePerRole catalog answers ↔ Role.stack.Suits catalog answers := by
  constructor
  · exact OnePerRole.suits
  · intro stack
    have all : ∀ role ∈ Role.all, role.Suits catalog answers := List.forall_mem_cons.2 ⟨stack, suit⟩
    refine ⟨?_, ?_, stack⟩
    · rw [names_nodup_iff found, asked_eq]
      exact selected_nodup (by decide) all
    · rw [asked_eq]
      exact categories_in_order all

end

/-! Turns. -/

variable {composer : Composer} {environment : Environment} {config : Value} {outcome : Except Fault Product}
  {loans : Loans} {events : List Event}

theorem select_returns (bound : ∀ failure, ¬ Resists answers (asked catalog answers) failure) (run : Run) :
    ∃ left, (select catalog answers).run.run run = (.ok (asked catalog answers), left) := by
  have selects : Meets (select catalog answers) run (fun providers _ => providers = asked catalog answers)
      fun _ _ => False := by
    apply meets_mono (@select_meets catalog answers (fun _ => True) (fun _ _ _ => trivial) (candidates answers) run trivial)
    · rintro providers left ⟨_, rfl⟩
      rfl
    · rintro fault left ⟨_, failure, _, resists⟩
      exact bound failure resists
  obtain ⟨providers, left, ran, rfl⟩ := succeeds_of_meets selects
  exact ⟨left, ran⟩

theorem selection_of_accepted (accepted : accepted? config = some answers) :
    selection catalog config = asked catalog answers := by
  rw [selection, accepted, asked_eq]

theorem started_mem_turns {name : String} : .started name ∈ turns providers ↔ name ∈ providers.map Provider.name := by
  simp [turns, eq_comm]

theorem merged_mem_turns {name : String} : .merged name ∈ turns providers ↔ name ∈ providers.map Provider.name := by
  simp [turns, eq_comm]

theorem turns_nodup (distinct : (providers.map Provider.name).Nodup) : (turns providers).Nodup := by
  induction providers with
  | nil => exact List.nodup_nil
  | cons provider later ih =>
    obtain ⟨apart, rest⟩ := List.nodup_cons.1 distinct
    rw [turns_cons, List.nodup_cons, List.nodup_cons, List.mem_cons, started_mem_turns, merged_mem_turns]
    exact ⟨fun twice => twice.elim nofun apart, apart, ih rest⟩

theorem acts_prefix (course : Course composer environment config outcome loans events) :
    acts events <+: turns (selection composer.catalog config) := by
  cases course with
  | refused =>
    rw [acts_shown]
    exact List.nil_prefix
  | broken accepted comparable silent breaks =>
    rw [acts_append, acts_shown, List.nil_append]
    cases breaks with
    | barred => exact List.nil_prefix
    | late =>
      rw [acts_turns]
    | stopped dated stops =>
      obtain ⟨done, provider, later, reached, failure, selected, inTurn, halts, rfl, rfl⟩ := stops
      refine ⟨.merged provider.name :: turns later, ?_⟩
      rw [acts_append, acts_turns, selected, List.append_assoc, turns, turns, turns, List.flatMap_append]
      rfl
  | finished =>
    rw [acts_append, acts_append, acts_shown, acts_shown, acts_turns, List.nil_append, List.append_nil]

theorem hooks_finished {product : Product} (course : Course composer environment config (.ok product) loans events) :
    hooks events = (selection composer.catalog config).map Provider.name := by
  cases course
  rw [hooks_append, hooks_append, hooks_shown, hooks_shown, hooks_turns, List.nil_append, List.append_nil]

end Composer

namespace Builtin

open Composer

def companionNames : List String :=
  ["postgresql-plugin", "mongodb-plugin", "jest-plugin", "pytest-plugin", "tailwind-plugin"]

/-- What the answers come to: which providers are selected, and how often each of them takes its turn. -/
structure Allotted (composer : Composer) (environment : Environment) (config : Value) (answers : Answers) : Prop where
  selected : ∀ run, ∃ left, (select composer.catalog answers).run.run run = (.ok (asked composer.catalog answers), left)
  onePerRole : OnePerRole composer.catalog answers ↔ ∀ name ∈ companionNames, answers.stack ≠ some name
  distinct : ((asked composer.catalog answers).map Provider.name).Nodup ↔ ¬ Doubled composer.catalog answers
  once : ¬ Doubled composer.catalog answers → (acts (composer.generate environment config).2.2).Nodup
  twice : Doubled composer.catalog answers → ∀ product, (composer.generate environment config).1 = .ok product →
    ¬ (hooks (composer.generate environment config).2.2).Nodup

variable {catalog : Catalog} {answers : Answers} (standard : Catalog.ofList all = .ok catalog)

theorem suits_of_table {role : Role} {answer : Option String} {companions : Table Provider}
    (same : role.selected catalog answers = answer.bind companions.get?)
    (fit : ∀ entry ∈ companions, entry.2.descriptor.category = .known role.category) : role.Suits catalog answers := by
  intro provider selected
  rw [same] at selected
  obtain ⟨name, _, held⟩ := Option.bind_eq_some_iff.1 selected
  exact fit (name, provider) (Table.mem_of_get? held)

include standard

theorem companions_suit : ∀ role ∈ Role.companions, role.Suits catalog answers := by
  simp only [Role.companions, List.forall_mem_cons]
  refine ⟨?_, ?_, ?_, nofun⟩
  · exact suits_of_table (database_selected standard) (by decide)
  · exact suits_of_table (testing_selected standard) (by decide)
  · exact suits_of_table (styling_selected standard) (by decide)

theorem stack_suits_iff : Role.stack.Suits catalog answers ↔ ∀ name ∈ companionNames, answers.stack ≠ some name := by
  constructor
  · intro suits name listed wanted
    have companion : ∀ name ∈ companionNames, ∃ provider ∈ all,
        provider.name = name ∧ provider.descriptor.category ≠ .known .stack := by decide
    obtain ⟨provider, member, rfl, other⟩ := companion name listed
    exact other (suits provider ((stack_selected standard).2 ⟨member, wanted⟩))
  · intro apart provider selected
    have proper : ∀ provider ∈ all, provider.name ∉ companionNames → provider.descriptor.category = .known .stack := by
      decide
    obtain ⟨member, wanted⟩ := (stack_selected standard).1 selected
    exact proper provider member fun listed => apart provider.name listed wanted

theorem asked_found : ∀ provider ∈ asked catalog answers, catalog.get? provider.name = some provider :=
  fun _ asks => (Catalog.get?_of_list standard _ _).2 ⟨asked_builtin standard asks, rfl⟩

theorem names_distinct_iff :
    ((asked catalog answers).map Provider.name).Nodup ↔ ¬ Doubled catalog answers := by
  rw [names_nodup_iff (asked_found standard), asked_nodup_iff (companions_suit standard)]

omit standard

/-- Valid answers ask for at most one provider in each role, and for one of its category, if and only if their stack is
not a companion. The names are distinct, and each provider has one turn, unless a companion is asked for twice. -/
theorem one_provider_per_role {composer : Composer} (standard : Catalog.ofList all = .ok composer.catalog)
    (environment : Environment) {config : Value} {answers : Answers} (accepted : accepted? config = some answers) :
    Allotted composer environment config answers := by
  have course := generation_course composer environment config
  have chosen : selection composer.catalog config = asked composer.catalog answers := selection_of_accepted accepted
  constructor
  case selected =>
    have builtin : asked composer.catalog answers ⊆ all := fun provider asks => asked_builtin standard asks
    exact select_returns (never_resists builtin answers)
  case onePerRole =>
    rw [one_per_role_of_stack (companions_suit standard) (asked_found standard), stack_suits_iff standard]
  case distinct => exact names_distinct_iff standard
  case once =>
    intro single
    have prefixed := acts_prefix course
    rw [chosen] at prefixed
    exact (turns_nodup ((names_distinct_iff standard).2 single)).sublist prefixed.sublist
  case twice =>
    intro doubled product made
    rw [made] at course
    rw [hooks_finished course, chosen, names_distinct_iff standard]
    exact not_not_intro doubled

/-! A server that is kept apart from its database, and one whose stack is its database. -/

def servedBase : Table Value :=
  [("projectType", .str "backend"), ("stack", .str "fastapi"), ("database", .str "postgresql"),
    ("testing", .str "pytest")]

def bareBase : Table Value :=
  [("projectType", .str "backend"), ("stack", .str "postgresql-plugin"), ("database", .str "postgresql")]

theorem one_provider_per_role_served : accepted? (.record servedBase) = some (answersOf servedBase) ∧
    OnePerRole standardCatalog (answersOf servedBase) ∧
    (acts (standardComposer.generate templateFolder (.record servedBase)).2.2).Nodup := by
  have accepted : accepted? (.record servedBase) = some (answersOf servedBase) := rfl
  have allotted := @one_provider_per_role standardComposer standard_made templateFolder _ _ accepted
  have one : OnePerRole standardCatalog (answersOf servedBase) := allotted.onePerRole.2 (by decide)
  exact ⟨accepted, one, allotted.once (allotted.distinct.1 one.distinct)⟩

theorem database_selected_twice : accepted? (.record bareBase) = some (answersOf bareBase) ∧
    (asked standardCatalog (answersOf bareBase)).map Provider.name = ["postgresql-plugin", "postgresql-plugin"] ∧
    ¬ OnePerRole standardCatalog (answersOf bareBase) ∧
    hooks (standardComposer.generate templateFolder (.record bareBase)).2.2
      = ["postgresql-plugin", "postgresql-plugin"] := by
  have names : (asked standardCatalog (answersOf bareBase)).map Provider.name
      = ["postgresql-plugin", "postgresql-plugin"] := rfl
  refine ⟨rfl, names, fun one => ?_, by decide +kernel⟩
  have distinct := one.distinct
  rw [names] at distinct
  exact absurd distinct (by decide)

end Builtin

end Handbook
