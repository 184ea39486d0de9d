import Handbook.Proofs.Catalog
import Handbook.Proofs.Steps
import Mathlib.Data.Sym.Sym2

/-!
Conflicts among named providers. Main statement of this module: if all registered providers can be bound and tell what
they accept, then the conflicts are told of exactly those pairs of places at which one name refuses the other, in the
order of the places, and with the first refusal as the reason. Names that are not registered do not count, and the order
of the names decides nothing but the order within and among the conflicts.
-/

namespace Handbook

/-! Pairs of items. -/

section

variable {α β : Type} {items items' : List α} {before : α → α → Prop}

/-- The pairs of items of a list, in the order of their places. -/
def pairs : List α → List (α × α)
  | [] => []
  | first :: rest => rest.map (first, ·) ++ pairs rest

theorem pairs_cons (first : α) (rest : List α) : pairs (first :: rest) = rest.map (first, ·) ++ pairs rest := rfl

theorem pairs_map (write : α → β) (items : List α) :
    pairs (items.map write) = (pairs items).map (Prod.map write write) := by
  induction items with
  | nil => rfl
  | cons first rest ih =>
    rw [List.map_cons, pairs_cons, ih, pairs_cons, List.map_append, List.map_map, List.map_map]
    rfl

theorem mem_pairs {first second : α} : (first, second) ∈ pairs items ↔
    ∃ i j : Nat, i < j ∧ items[i]? = some first ∧ items[j]? = some second := by
  induction items with
  | nil => simp [pairs]
  | cons head rest ih =>
    rw [pairs_cons, List.mem_append, ih]
    constructor
    · rintro (member | ⟨i, j, less, found, found'⟩)
      · obtain ⟨item, inside, same⟩ := List.mem_map.1 member
        rw [Prod.mk.injEq] at same
        obtain ⟨rfl, rfl⟩ := same
        obtain ⟨j, found⟩ := List.mem_iff_getElem?.1 inside
        exact ⟨0, j + 1, Nat.succ_pos j, rfl, found⟩
      · exact ⟨i + 1, j + 1, Nat.succ_lt_succ less, found, found'⟩
    · rintro ⟨i, j, less, found, found'⟩
      obtain ⟨k, rfl⟩ := Nat.exists_eq_succ_of_ne_zero (Nat.ne_zero_of_lt less)
      rw [List.getElem?_cons_succ] at found'
      cases i with
      | zero =>
        rw [List.getElem?_cons_zero, Option.some.injEq] at found
        subst found
        exact .inl (List.mem_map.2 ⟨second, List.mem_of_getElem? found', rfl⟩)
      | succ i => exact .inr ⟨i, k, Nat.lt_of_succ_lt_succ less, found, found'⟩

/-- The pairs of a sorted list are sorted, by their first items and then by their second ones. -/
theorem pairs_sorted (sorted : items.Pairwise before) : (pairs items).Pairwise (Prod.Lex before before) := by
  induction sorted with
  | nil => exact .nil
  | @cons first rest earlier later ih =>
    rw [pairs_cons, List.pairwise_append]
    refine ⟨?_, ih, ?_⟩
    · rw [List.pairwise_map]
      exact later.imp fun less => .right _ less
    · rintro pair inside ⟨one, other⟩ inside'
      obtain ⟨item, _, rfl⟩ := List.mem_map.1 inside
      obtain ⟨i, _, _, found, _⟩ := mem_pairs.1 inside'
      exact .left _ _ (earlier one (List.mem_of_getElem? found))

/-- Regardless of the order within them, the pairs do not depend on the order of the items. -/
theorem pairs_perm (same : items.Perm items') :
    ((pairs items).map fun pair => s(pair.1, pair.2)).Perm ((pairs items').map fun pair => s(pair.1, pair.2)) := by
  induction same with
  | nil => exact .refl _
  | cons head rest ih =>
    simp only [pairs_cons, List.map_append, List.map_map]
    exact (rest.map _).append ih
  | swap first second rest =>
    simp only [pairs_cons, List.map_append, List.map_map, List.map_cons, List.cons_append, Sym2.eq_swap]
    exact .cons _ (List.perm_append_comm_assoc ..)
  | trans _ _ ih ih' => exact ih.trans ih'

/-! Pairs of items that are kept with their places. -/

theorem get_placed {place : Nat} {item : α × Nat} :
    items.zipIdx[place]? = some item ↔ place = item.2 ∧ items[item.2]? = some item.1 := by
  obtain ⟨item, own⟩ := item
  rw [List.getElem?_zipIdx, Nat.zero_add, Option.map_eq_some_iff]
  constructor
  · rintro ⟨_, found, same⟩
    cases same
    exact ⟨rfl, found⟩
  · rintro ⟨rfl, found⟩
    exact ⟨item, found, rfl⟩

theorem mem_pairs_placed {first second : α × Nat} : (first, second) ∈ pairs items.zipIdx ↔
    first.2 < second.2 ∧ items[first.2]? = some first.1 ∧ items[second.2]? = some second.1 := by
  rw [mem_pairs]
  constructor
  · rintro ⟨i, j, less, found, found'⟩
    obtain ⟨rfl, here⟩ := get_placed.1 found
    obtain ⟨rfl, here'⟩ := get_placed.1 found'
    exact ⟨less, here, here'⟩
  · rintro ⟨less, here, here'⟩
    exact ⟨_, _, less, get_placed.2 ⟨rfl, here⟩, get_placed.2 ⟨rfl, here'⟩⟩

/-- The places of two items. -/
def placesOf (pair : (α × Nat) × (α × Nat)) : Nat × Nat := (pair.1.2, pair.2.2)

theorem pairs_placed_sorted (items : List α) : (pairs items.zipIdx).Pairwise fun pair pair' =>
    Prod.Lex (· < ·) (· < ·) (placesOf pair) (placesOf pair') := by
  have sorted : items.zipIdx.Pairwise fun one other => one.2 < other.2 := by
    rw [← List.pairwise_map, List.zipIdx_map_snd]
    exact List.pairwise_lt_range' 1
  refine (pairs_sorted sorted).imp fun earlier => ?_
  cases earlier with
  | left _ _ less => exact .left _ _ less
  | right _ less => exact .right _ less

end

namespace Catalog

variable {catalog : Catalog} {name other : String} {first second : Provider} {providers : List Provider}

/-! What is asked for. -/

def Refuses (catalog : Catalog) (name other : String) : Prop :=
  ∃ provider, catalog.get? name = some provider ∧ provider.accepts other = .ok false

/-- The provider can tell of any name whether it accepts it. -/
def Judges (provider : Provider) : Prop := ∀ other, ∃ answer, provider.accepts other = .ok answer

def Judged (providers : List Provider) : Prop := ∀ provider ∈ providers, Judges provider

/-- The provider can be bound, and can tell of any name whether it accepts it. -/
def Decides (provider : Provider) : Prop := provider.bindTo Answers.none = .ok () ∧ Judges provider

def Decided (providers : List Provider) : Prop := ∀ provider ∈ providers, Decides provider

/-- One of the names at two places refuses the other one. -/
def Clashes (catalog : Catalog) (names : List String) (place : Nat × Nat) : Prop :=
  place.1 < place.2 ∧ ∃ first second, names[place.1]? = some first ∧ names[place.2]? = some second ∧
    (catalog.Refuses first second ∨ catalog.Refuses second first)

/-- The conflict is that of the names at two places; the second one is to blame only if the first one accepts it. -/
structure Explains (catalog : Catalog) (names : List String) (place : Nat × Nat) (conflict : Conflict) : Prop where
  first : names[place.1]? = some conflict.first
  second : names[place.2]? = some conflict.second
  forward : catalog.Refuses conflict.first conflict.second →
    conflict.reason = s!"{conflict.first} is incompatible with {conflict.second}"
  backward : ¬ catalog.Refuses conflict.first conflict.second →
    conflict.reason = s!"{conflict.second} is incompatible with {conflict.first}"

/-- There is one conflict for any two places that clash, and no other one, in the order of the places. -/
def Accounts (catalog : Catalog) (names : List String) (conflicts : List Conflict) : Prop :=
  ∃ places : List (Nat × Nat), places.Pairwise (Prod.Lex (· < ·) (· < ·)) ∧
    (∀ place, place ∈ places ↔ catalog.Clashes names place) ∧ List.Forall₂ (catalog.Explains names) places conflicts

/-- The names in a conflict, in no order. -/
def sides (conflict : Conflict) : Sym2 String := s(conflict.first, conflict.second)

/-! Two providers. -/

def refuses (provider : Provider) (name : String) : Bool :=
  match provider.accepts name with
  | .ok answer => !answer
  | .error _ => false

def verdict (first second : Provider) : Option Conflict :=
  if refuses first second.name then
    some ⟨first.name, second.name, s!"{first.name} is incompatible with {second.name}"⟩
  else if refuses second first.name then
    some ⟨first.name, second.name, s!"{second.name} is incompatible with {first.name}"⟩
  else none

theorem conflict_judged (judges : Judges first) (judges' : Judges second) :
    conflict? first second = .ok (verdict first second) := by
  obtain ⟨answer, told⟩ := judges second.name
  obtain ⟨answer', told'⟩ := judges' first.name
  unfold conflict? verdict refuses
  rw [told, told']
  cases answer <;> cases answer' <;> rfl

theorem conflicts_with_judged (judges : Judges first) (all : Judged providers) :
    conflictsWith first providers = .ok (providers.filterMap (verdict first)) := by
  induction providers with
  | nil => rfl
  | cons second rest ih =>
    rw [conflictsWith, conflict_judged judges (all second List.mem_cons_self),
      ih fun provider member => all provider (List.mem_cons_of_mem _ member), List.filterMap_cons]
    cases verdict first second <;> rfl

/-- The conflicts are the verdicts over all pairs of providers. -/
theorem conflicts_among_judged (all : Judged providers) :
    conflictsAmong providers = .ok ((pairs providers).filterMap fun pair => verdict pair.1 pair.2) := by
  induction providers with
  | nil => rfl
  | cons first rest ih =>
    have later : Judged rest := fun provider member => all provider (List.mem_cons_of_mem _ member)
    rw [conflictsAmong, conflicts_with_judged (all first List.mem_cons_self) later, ih later, pairs_cons,
      List.filterMap_append, List.filterMap_map]
    rfl

/-- Whether two providers clash, and under which names, does not depend on their order. -/
def clash : Sym2 Provider → Option (Sym2 String) :=
  Sym2.lift ⟨fun first second =>
    if refuses first second.name ∨ refuses second first.name then some s(first.name, second.name) else none,
    fun first second => by simp only [or_comm, Sym2.eq_swap]⟩

theorem sides_of_verdict (first second : Provider) : (verdict first second).map sides = clash s(first, second) := by
  change _ = if refuses first second.name ∨ refuses second first.name then some s(first.name, second.name) else none
  rw [verdict]
  cases refuses first second.name <;> cases refuses second first.name <;> simp [sides]

theorem sides_of_pairs (providers : List Provider) :
    ((pairs providers).filterMap fun pair => verdict pair.1 pair.2).map sides
      = ((pairs providers).map fun pair => s(pair.1, pair.2)).filterMap clash := by
  rw [List.map_filterMap, List.filterMap_map]
  exact List.filterMap_congr fun pair _ => sides_of_verdict pair.1 pair.2

/-! Names. -/

/-- The providers that are compared. -/
def called (catalog : Catalog) (names : List String) : List Provider := names.filterMap catalog.get?

theorem called_registered {provider : Provider} (names : List String) (member : provider ∈ catalog.called names) :
    provider ∈ catalog.all := by
  obtain ⟨name, _, found⟩ := List.mem_filterMap.1 member
  exact List.mem_map.2 ⟨_, Table.mem_of_get? found, rfl⟩

theorem names_of_called (indexed : Indexed catalog) (names : List String) :
    (catalog.called names).map Provider.name = names.filter catalog.has := by
  induction names with
  | nil => rfl
  | cons name rest ih =>
    rw [called, List.filterMap_cons, List.filter_cons, has, Table.has]
    cases found : catalog.get? name with
    | none =>
      rw [get?] at found
      rw [found]
      exact ih
    | some provider =>
      have named := (described_of_get? indexed found).1
      rw [get?] at found
      rw [found, Option.isSome_some, if_pos rfl, List.map_cons, named]
      exact congrArg _ ih

theorem called_among_registered (catalog : Catalog) (names : List String) :
    catalog.called (names.filter catalog.has) = catalog.called names := by
  rw [called, List.filterMap_filter]
  refine List.filterMap_congr fun name _ => ?_
  rw [has, Table.has, get?]
  cases catalog.byName.get? name <;> rfl

/-- Once all named providers are bound, their conflicts are told. -/
theorem conflicts_judged (judged : Judged catalog.all) (names : List String) : catalog.conflicts names = (do
    (catalog.called names).forM fun provider => provider.bindTo Answers.none
    return (pairs (catalog.called names)).filterMap fun pair => verdict pair.1 pair.2) := by
  have told := conflicts_among_judged fun provider member => judged provider (called_registered names member)
  rw [conflicts]
  change (do (catalog.called names).forM _; conflictsAmong (catalog.called names)) = _
  rw [told]
  rfl

theorem conflicts_decided (decided : Decided catalog.all) (names : List String) : catalog.conflicts names
    = .ok ((pairs (catalog.called names)).filterMap fun pair => verdict pair.1 pair.2) := by
  have bound := each_done fun provider member => (decided provider (called_registered names member)).1
  rw [conflicts_judged fun provider member => (decided provider member).2, bound]
  rfl

theorem refuses_iff (found : catalog.get? first.name = some first) (other : String) :
    catalog.Refuses first.name other ↔ refuses first other = true := by
  rw [Refuses, refuses, found]
  constructor
  · rintro ⟨provider, same, refused⟩
    cases same
    rw [refused]
    rfl
  · intro refused
    refine ⟨first, rfl, ?_⟩
    split at refused
    · rename_i answer told
      rw [told]
      simpa using refused
    · cases refused

section

variable {place : Nat × Nat} (all : ∀ provider ∈ providers, catalog.get? provider.name = some provider)
  (here : providers[place.1]? = some first) (here' : providers[place.2]? = some second)

include all here here'

theorem clashes_iff (less : place.1 < place.2) : catalog.Clashes (providers.map Provider.name) place ↔
    refuses first second.name = true ∨ refuses second first.name = true := by
  rw [← refuses_iff (all first (List.mem_of_getElem? here)), ← refuses_iff (all second (List.mem_of_getElem? here')),
    Clashes, List.getElem?_map, here, List.getElem?_map, here']
  constructor
  · rintro ⟨_, _, _, ⟨⟩, ⟨⟩, refused⟩
    exact refused
  · intro refused
    exact ⟨less, _, _, rfl, rfl, refused⟩

theorem verdict_iff (less : place.1 < place.2) : (∃ conflict, verdict first second = some conflict) ↔
    catalog.Clashes (providers.map Provider.name) place := by
  rw [clashes_iff all here here' less, verdict]
  cases refuses first second.name <;> cases refuses second first.name <;> simp

theorem verdict_explains {conflict : Conflict} (told : verdict first second = some conflict) :
    catalog.Explains (providers.map Provider.name) place conflict := by
  have named : (providers.map Provider.name)[place.1]? = some first.name := by rw [List.getElem?_map, here]; rfl
  have named' : (providers.map Provider.name)[place.2]? = some second.name := by rw [List.getElem?_map, here']; rfl
  have forward := refuses_iff (all first (List.mem_of_getElem? here)) second.name
  rw [verdict] at told
  split at told
  · rename_i refused
    cases told
    exact ⟨named, named', fun _ => rfl, fun accepted => absurd (forward.2 refused) accepted⟩
  · rename_i accepted
    split at told
    · cases told
      exact ⟨named, named', fun refused => absurd (forward.1 refused) accepted, fun _ => rfl⟩
    · cases told

end

/-! Verdicts with the places that they are about. -/

def placedVerdicts (providers : List Provider) : List ((Nat × Nat) × Conflict) :=
  (pairs providers.zipIdx).filterMap fun pair => (verdict pair.1.1 pair.2.1).map fun conflict => (placesOf pair, conflict)

theorem mem_placed_verdicts {place : Nat × Nat} {conflict : Conflict} :
    (place, conflict) ∈ placedVerdicts providers ↔ ∃ first second, place.1 < place.2 ∧
      providers[place.1]? = some first ∧ providers[place.2]? = some second ∧ verdict first second = some conflict := by
  rw [placedVerdicts, List.mem_filterMap]
  constructor
  · rintro ⟨⟨one, two⟩, listed, told⟩
    obtain ⟨_, told, same⟩ := Option.map_eq_some_iff.1 told
    cases same
    obtain ⟨less, here, here'⟩ := mem_pairs_placed.1 listed
    exact ⟨one.1, two.1, less, here, here', told⟩
  · rintro ⟨first, second, less, here, here', told⟩
    refine ⟨((first, place.1), (second, place.2)), mem_pairs_placed.2 ⟨less, here, here'⟩, ?_⟩
    rw [told]
    rfl

theorem placed_verdicts_sorted (providers : List Provider) :
    ((placedVerdicts providers).map Prod.fst).Pairwise (Prod.Lex (· < ·) (· < ·)) := by
  rw [placedVerdicts, List.pairwise_map, List.pairwise_filterMap]
  refine (pairs_placed_sorted providers).imp fun less => ?_
  intro one found other found'
  obtain ⟨_, _, rfl⟩ := Option.map_eq_some_iff.1 found
  obtain ⟨_, _, rfl⟩ := Option.map_eq_some_iff.1 found'
  exact less

theorem placed_verdicts_conflicts (providers : List Provider) : (placedVerdicts providers).map Prod.snd
    = (pairs providers).filterMap fun pair => verdict pair.1 pair.2 := by
  rw [placedVerdicts, List.map_filterMap]
  conv => rhs; rw [← List.zipIdx_map_fst 0 providers, pairs_map, List.filterMap_map]
  refine List.filterMap_congr fun pair _ => ?_
  rw [Option.map_map]
  exact Option.map_id' ..

theorem called_found (indexed : Indexed catalog) (names : List String) :
    ∀ provider ∈ catalog.called names, catalog.get? provider.name = some provider := by
  intro provider member
  obtain ⟨name, _, found⟩ := List.mem_filterMap.1 member
  rw [(described_of_get? indexed found).1]
  exact found

theorem verdicts_account (indexed : Indexed catalog) (names : List String) :
    catalog.Accounts (names.filter catalog.has)
      ((pairs (catalog.called names)).filterMap fun pair => verdict pair.1 pair.2) := by
  have found := called_found indexed names
  rw [← names_of_called indexed names, ← placed_verdicts_conflicts]
  refine ⟨(placedVerdicts (catalog.called names)).map Prod.fst, placed_verdicts_sorted _, ?_, ?_⟩
  · intro place
    constructor
    · intro member
      obtain ⟨⟨place, conflict⟩, inside, rfl⟩ := List.mem_map.1 member
      obtain ⟨first, second, less, here, here', told⟩ := mem_placed_verdicts.1 inside
      exact (verdict_iff found here here' less).1 ⟨conflict, told⟩
    · intro clashes
      obtain ⟨less, _, _, named, named', _⟩ := id clashes
      rw [List.getElem?_map, Option.map_eq_some_iff] at named named'
      obtain ⟨first, here, _⟩ := named
      obtain ⟨second, here', _⟩ := named'
      obtain ⟨conflict, told⟩ := (verdict_iff found here here' less).2 clashes
      exact List.mem_map.2 ⟨_, mem_placed_verdicts.2 ⟨first, second, less, here, here', told⟩, rfl⟩
  · rw [List.forall₂_map_left_iff, List.forall₂_map_right_iff, List.forall₂_same]
    rintro ⟨place, conflict⟩ inside
    obtain ⟨first, second, less, here, here', told⟩ := mem_placed_verdicts.1 inside
    exact verdict_explains found here here' told

/-! Whatever has been asked for. -/

/-- If all registered providers can be bound and tell what they accept, then any names have conflicts, and these account
for the places at which registered names clash. Other names change nothing, and in another order the same names
conflict. -/
theorem conflicts_account (requests : List Request) (decided : Decided (afterAll requests).all) (names : List String) :
    let catalog := afterAll requests
    ∃ conflicts, catalog.conflicts names = .ok conflicts ∧
      catalog.Accounts (names.filter catalog.has) conflicts ∧
      catalog.conflicts (names.filter catalog.has) = .ok conflicts ∧
      ∀ names', names.Perm names' → ∃ conflicts', catalog.conflicts names' = .ok conflicts' ∧
        (↑(conflicts.map sides) : Multiset (Sym2 String)) = ↑(conflicts'.map sides) := by
  intro catalog
  obtain ⟨indexed, _⟩ := indexed_after_all requests
  refine ⟨_, conflicts_decided decided names, verdicts_account indexed names, ?_, ?_⟩
  · rw [conflicts_decided decided, called_among_registered]
  · intro names' same
    refine ⟨_, conflicts_decided decided names', ?_⟩
    rw [Multiset.coe_eq_coe, sides_of_pairs, sides_of_pairs]
    exact (pairs_perm (same.filterMap _)).filterMap _

/-! A provider that refuses another one and itself, while the other one accepts it. -/

def crowd : Provider :=
  .reliable ⟨"crowd", "Crowd", .known .misc, [], [], none, "", "1.0.0"⟩ [] Provider.noPreparation fun _ _ => {}

def loner : Provider :=
  .reliable ⟨"loner", "Loner", .known .misc, [], [], none, "", "1.0.0"⟩ ["crowd", "loner"] Provider.noPreparation
    fun _ _ => {}

def arrivals : List Request := [.register crowd, .register loner]

theorem conflicts_account_arrivals : Decided (afterAll arrivals).all ∧
    ∃ conflicts, (afterAll arrivals).conflicts ["crowd", "ghost", "loner", "loner"] = .ok conflicts ∧
      (afterAll arrivals).Accounts ["crowd", "loner", "loner"] conflicts := by
  have decided : Decided (afterAll arrivals).all := by
    intro provider member
    have listed : provider ∈ [crowd, loner] := member
    simp only [List.mem_cons, List.not_mem_nil, or_false] at listed
    rcases listed with rfl | rfl <;> exact ⟨rfl, fun other => ⟨_, rfl⟩⟩
  obtain ⟨conflicts, told, accounts, _⟩ := conflicts_account arrivals decided ["crowd", "ghost", "loner", "loner"]
  exact ⟨decided, conflicts, told, accounts⟩

example : (afterAll arrivals).conflicts ["crowd", "ghost", "loner", "loner"]
    = .ok [⟨"crowd", "loner", "loner is incompatible with crowd"⟩,
        ⟨"crowd", "loner", "loner is incompatible with crowd"⟩,
        ⟨"loner", "loner", "loner is incompatible with loner"⟩] := rfl

end Catalog

end Handbook
