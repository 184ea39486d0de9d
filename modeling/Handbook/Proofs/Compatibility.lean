import Handbook.Proofs.Conflicts
import Mathlib.Data.List.Pairwise

/-!
Partners and conflicts. A catalog can be asked for the partners of one name, and for the conflicts among several names.
Main statement of this module: if all registered providers can be bound and tell what they accept, then the two answers
agree. Two names are partners of each other exactly if there is no conflict between them, and names without repetition
have no conflict exactly if any two of them are partners.
-/

namespace Handbook.Catalog

variable {catalog : Catalog} {name other : String} {first second : Provider} {providers : List Provider}

/-! What is asked for. -/

/-- A name is among the partners of another one. -/
def Partner (catalog : Catalog) (name other : String) : Prop :=
  ∃ partners, catalog.compatibleWith name = .ok partners ∧ other ∈ partners.map Provider.name

/-- Neither of two names refuses the other one. -/
def Peaceful (catalog : Catalog) (name other : String) : Prop :=
  ¬ catalog.Refuses name other ∧ ¬ catalog.Refuses other name

/-! Two providers. -/

/-- Neither of two providers refuses the other one. -/
def Friendly (first second : Provider) : Prop := refuses first second.name = false ∧ refuses second first.name = false

instance (first second : Provider) : Decidable (Friendly first second) :=
  inferInstanceAs (Decidable (refuses first second.name = false ∧ refuses second first.name = false))

instance : Std.Symm Friendly := ⟨fun _ _ => And.symm⟩

theorem friendly_comm : Friendly first second ↔ Friendly second first := And.comm

theorem no_verdict_iff : verdict first second = none ↔ Friendly first second := by
  rw [verdict, Friendly]
  cases refuses first second.name <;> cases refuses second first.name <;> simp

theorem peaceful_iff (found : catalog.get? first.name = some first) (found' : catalog.get? second.name = some second) :
    catalog.Peaceful first.name second.name ↔ Friendly first second := by
  rw [Peaceful, refuses_iff found, refuses_iff found', Friendly, Bool.not_eq_true, Bool.not_eq_true]

/-- Whether a provider accepts a name, if it can tell. -/
theorem accepts_decided (decides : Decides first) (other : String) :
    first.accepts other = .ok (!refuses first other) := by
  obtain ⟨answer, told⟩ := decides.2 other
  rw [refuses, told]
  exact congrArg _ (Bool.not_not answer).symm

/-! The partners of a name. -/

section

variable {α ε : Type} {items : List α} {test : α → Except ε Bool} {keep : α → Bool}

theorem filter_aux_decided (told : ∀ item ∈ items, test item = .ok (keep item)) (kept : List α) :
    List.filterAuxM test items kept = .ok ((items.filter keep).reverse ++ kept) := by
  induction items generalizing kept with
  | nil => rfl
  | cons item rest ih =>
    obtain ⟨here, later⟩ := List.forall_mem_cons.1 told
    rw [List.filterAuxM, here]
    cases answer : keep item with
    | true =>
      rw [List.filter_cons_of_pos answer, List.reverse_cons, List.append_assoc]
      exact ih later (item :: kept)
    | false =>
      rw [List.filter_cons_of_neg (by simp [answer])]
      exact ih later kept

/-- A test that always ends in an answer is a filter. -/
theorem filter_decided (told : ∀ item ∈ items, test item = .ok (keep item)) :
    items.filterM test = .ok (items.filter keep) := by
  rw [List.filterM, filter_aux_decided told, List.append_nil]
  exact congrArg _ (List.reverse_reverse _)

end

/-- The other providers that are friendly. -/
def partnersOf (catalog : Catalog) (target : Provider) : List Provider :=
  (catalog.all.filter (·.name ≠ target.name)).filter fun provider => Friendly target provider

theorem partners_decided (decided : Decided catalog.all) (found : catalog.get? first.name = some first) :
    catalog.compatibleWith first.name = .ok (catalog.partnersOf first) := by
  have member : first ∈ catalog.all := List.mem_map.2 ⟨_, Table.mem_of_get? found, rfl⟩
  rw [compatibleWith, found]
  dsimp only
  rw [(decided first member).1]
  refine filter_decided fun provider inside => ?_
  have registered : provider ∈ catalog.all := List.mem_of_mem_filter inside
  rw [(decided provider registered).1, accepts_decided (decided provider registered), accepts_decided (decided first member)]
  cases refused : refuses provider first.name <;> cases refused' : refuses first provider.name <;>
    simp [Friendly, refused, refused', bind, Except.bind, pure, Except.pure]

theorem mem_partners_of (found : catalog.get? second.name = some second) :
    second ∈ catalog.partnersOf first ↔ second.name ≠ first.name ∧ Friendly first second := by
  have member : second ∈ catalog.all := List.mem_map.2 ⟨_, Table.mem_of_get? found, rfl⟩
  simp [partnersOf, member, and_comm]

theorem all_found (indexed : Indexed catalog) (member : first ∈ catalog.all) :
    catalog.get? first.name = some first := Table.get?_of_mem indexed.distinct (name_mem indexed member)

theorem registered_of_has (indexed : Indexed catalog) (known : catalog.has name = true) :
    ∃ provider, catalog.get? provider.name = some provider ∧ provider.name = name := by
  obtain ⟨provider, found⟩ := Option.isSome_iff_exists.1 known
  have named := (described_of_get? indexed found).1
  exact ⟨provider, by rwa [named], named⟩

theorem has_of_found (found : catalog.get? name = some first) : catalog.has name = true :=
  Option.isSome_iff_exists.2 ⟨first, found⟩

/-- The names of the partners are the other registered names that are at peace with the name. -/
theorem partner_names_iff (indexed : Indexed catalog) (found : catalog.get? first.name = some first) :
    other ∈ (catalog.partnersOf first).map Provider.name ↔
      other ≠ first.name ∧ catalog.has other = true ∧ catalog.Peaceful first.name other := by
  constructor
  · intro member
    obtain ⟨second, inside, rfl⟩ := List.mem_map.1 member
    have registered : second ∈ catalog.all := List.mem_of_mem_filter (List.mem_of_mem_filter inside)
    have found' := all_found indexed registered
    obtain ⟨apart, friendly⟩ := (mem_partners_of found').1 inside
    exact ⟨apart, has_of_found found', (peaceful_iff found found').2 friendly⟩
  · rintro ⟨apart, known, peaceful⟩
    obtain ⟨second, found', rfl⟩ := registered_of_has indexed known
    exact List.mem_map.2 ⟨second, (mem_partners_of found').2 ⟨apart, (peaceful_iff found found').1 peaceful⟩, rfl⟩

theorem partners_sublist (catalog : Catalog) (target : Provider) : (catalog.partnersOf target).Sublist catalog.all :=
  List.filter_sublist.trans List.filter_sublist

theorem partners_distinct (indexed : Indexed catalog) (target : Provider) :
    ((catalog.partnersOf target).map Provider.name).Nodup := by
  have distinct := indexed.distinct
  rw [← names_of_all indexed] at distinct
  exact distinct.sublist ((partners_sublist catalog target).map _)

theorem partner_iff (indexed : Indexed catalog) (decided : Decided catalog.all)
    (found : catalog.get? first.name = some first) (found' : catalog.get? second.name = some second) :
    catalog.Partner first.name second.name ↔ second.name ≠ first.name ∧ Friendly first second := by
  have named : second.name ∈ (catalog.partnersOf first).map Provider.name ↔
      second.name ≠ first.name ∧ Friendly first second := by
    rw [partner_names_iff indexed found, peaceful_iff found found']
    simp [has_of_found found']
  rw [← named, Partner, partners_decided decided found]
  simp

/-! Conflicts among names. -/

theorem pairs_pairwise {α : Type} {items : List α} {related : α → α → Prop} :
    (∀ pair ∈ pairs items, related pair.1 pair.2) ↔ items.Pairwise related := by
  induction items with
  | nil => simp [pairs]
  | cons first rest ih =>
    rw [pairs_cons, List.forall_mem_append, ih, List.pairwise_cons, List.forall_mem_map]

/-- There is no conflict exactly among providers that are friendly with each other. -/
theorem no_conflicts_iff (decided : Decided catalog.all) (names : List String) :
    catalog.conflicts names = .ok [] ↔ (catalog.called names).Pairwise Friendly := by
  rw [conflicts_decided decided, Except.ok.injEq, List.filterMap_eq_nil_iff, ← pairs_pairwise]
  exact forall₂_congr fun pair _ => no_verdict_iff

/-- Registered names without repetition have no conflict exactly if any two of them are partners. -/
theorem no_conflicts_iff_partners (indexed : Indexed catalog) (decided : Decided catalog.all) {names : List String}
    (distinct : names.Nodup) (known : ∀ name ∈ names, catalog.has name = true) : catalog.conflicts names = .ok [] ↔
      ∀ name ∈ names, ∀ other ∈ names, name ≠ other → catalog.Partner name other := by
  have found := called_found indexed names
  have named : (catalog.called names).map Provider.name = names := by
    rw [names_of_called indexed, List.filter_eq_self.2 known]
  rw [no_conflicts_iff decided]
  constructor
  · intro friendly name member other member' apart
    rw [← named, List.mem_map] at member member'
    obtain ⟨first, inside, rfl⟩ := member
    obtain ⟨second, inside', rfl⟩ := member'
    have different : first ≠ second := fun same => apart (congrArg Provider.name same)
    exact (partner_iff indexed decided (found first inside) (found second inside')).2
      ⟨Ne.symm apart, friendly.forall inside inside' different⟩
  · intro partners
    rw [← named] at distinct
    refine distinct.of_map.pairwise_of_forall_ne fun first inside second inside' different => ?_
    have member : first.name ∈ names := named ▸ List.mem_map_of_mem inside
    have member' : second.name ∈ names := named ▸ List.mem_map_of_mem inside'
    have apart : first.name ≠ second.name := by
      intro same
      have alike := (found first inside).symm.trans (same ▸ found second inside')
      exact different (Option.some.inj alike)
    exact ((partner_iff indexed decided (found first inside) (found second inside')).1
      (partners _ member _ member' apart)).2

theorem partner_comm (indexed : Indexed catalog) (decided : Decided catalog.all) (known : catalog.has name = true)
    (known' : catalog.has other = true) : catalog.Partner name other ↔ catalog.Partner other name := by
  obtain ⟨first, found, rfl⟩ := registered_of_has indexed known
  obtain ⟨second, found', rfl⟩ := registered_of_has indexed known'
  rw [partner_iff indexed decided found found', partner_iff indexed decided found' found, friendly_comm, ne_comm]

theorem partner_iff_no_conflict (indexed : Indexed catalog) (decided : Decided catalog.all)
    (known : catalog.has name = true) (known' : catalog.has other = true) (apart : name ≠ other) :
    catalog.Partner name other ↔ catalog.conflicts [name, other] = .ok [] := by
  have back := partner_comm indexed decided known known'
  rw [no_conflicts_iff_partners indexed decided (by simpa using apart) (by simp [known, known'])]
  constructor
  · intro partner
    simp [partner, back.1 partner]
  · intro partners
    exact partners name (by simp) other (by simp) apart

/-! Whatever has been asked for. -/

/-- If all registered providers can be bound and tell what they accept, then every registered name has partners: the other registered
names that are at peace with it, each once and in the order of registration. Two names are partners of each other
exactly if they have no conflict, and so it is with any number of names. -/
theorem queries_agree (requests : List Request) (decided : Decided (afterAll requests).all) :
    let catalog := afterAll requests
    (∀ name, catalog.has name = true → ∃ partners, catalog.compatibleWith name = .ok partners ∧
      partners.Sublist catalog.all ∧ (partners.map Provider.name).Nodup ∧
      ∀ other, other ∈ partners.map Provider.name ↔
        other ≠ name ∧ catalog.has other = true ∧ catalog.Peaceful name other) ∧
    (∀ names, ∃ conflicts, catalog.conflicts names = .ok conflicts) ∧
    (∀ name other, catalog.has name = true → catalog.has other = true → name ≠ other →
      (catalog.Partner name other ↔ catalog.Partner other name) ∧
      (catalog.Partner name other ↔ catalog.conflicts [name, other] = .ok [])) ∧
    ∀ names, names.Nodup → (∀ name ∈ names, catalog.has name = true) →
      (catalog.conflicts names = .ok [] ↔
        ∀ name ∈ names, ∀ other ∈ names, name ≠ other → catalog.Partner name other) := by
  intro catalog
  obtain ⟨indexed, _⟩ := indexed_after_all requests
  refine ⟨fun name known => ?_, fun names => ⟨_, conflicts_decided decided names⟩,
    fun name other known known' apart => ?_, fun names => no_conflicts_iff_partners indexed decided⟩
  · obtain ⟨target, found, rfl⟩ := registered_of_has indexed known
    exact ⟨_, partners_decided decided found, partners_sublist _ target, partners_distinct indexed target,
      fun other => partner_names_iff indexed found⟩
  · exact ⟨partner_comm indexed decided known known', partner_iff_no_conflict indexed decided known known' apart⟩

/-! Two providers of which one refuses the other, and a third one. -/

def guest : Provider :=
  .reliable ⟨"guest", "Guest", .known .misc, [], [], none, "", "1.0.0"⟩ [] Provider.noPreparation fun _ _ => {}

def company : List Request := arrivals ++ [.register guest]

theorem queries_agree_company : Decided (afterAll company).all ∧
    (afterAll company).Partner "crowd" "guest" ∧ (afterAll company).Partner "guest" "crowd" ∧
    ¬ (afterAll company).Partner "crowd" "loner" ∧ ¬ (afterAll company).Partner "loner" "crowd" ∧
    ¬ ∀ name ∈ ["loner", "guest", "crowd"], ∀ other ∈ ["loner", "guest", "crowd"], name ≠ other →
      (afterAll company).Partner name other := by
  have decided : Decided (afterAll company).all := by
    intro provider member
    have listed : provider ∈ [crowd, loner, guest] := member
    simp only [List.mem_cons, List.not_mem_nil, or_false] at listed
    rcases listed with rfl | rfl | rfl <;> exact ⟨rfl, fun other => ⟨_, rfl⟩⟩
  obtain ⟨_, _, two, several⟩ := queries_agree company decided
  obtain ⟨back, agree⟩ := two "crowd" "guest" rfl rfl (by decide)
  obtain ⟨back', agree'⟩ := two "crowd" "loner" rfl rfl (by decide)
  have partner : (afterAll company).Partner "crowd" "guest" := agree.2 rfl
  have alone : ¬ (afterAll company).Partner "crowd" "loner" := by
    rw [agree']
    intro none
    cases none
  have known : ∀ name ∈ ["loner", "guest", "crowd"], (afterAll company).has name = true := by decide
  have apart : ["loner", "guest", "crowd"].Nodup := by decide
  refine ⟨decided, partner, back.1 partner, alone, fun loner => alone (back'.2 loner), ?_⟩
  rw [← several ["loner", "guest", "crowd"] apart known]
  intro none
  cases none

end Handbook.Catalog
