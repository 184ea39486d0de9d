import Handbook.Proofs.Catalog

/-!
What requests undo and what they leave to one another. Main statement of this module: in every catalog that requests
leave, taking out a provider that has just been registered restores both indices with their orders, taking out a name
twice or an unknown one changes nothing more, and two names can be taken out in either order. A registration and the
removal of another name can be exchanged as well, as far as queries tell; only the order in which the second index lists
the categories may differ.
-/

namespace Handbook.Catalog

variable {catalog next : Catalog} {category other : Category} {name name' : String} {provider : Provider}

/-! The index by category. -/

section

variable {index : List (Category × List String)}

theorem remove_name_absent (absent : category ∉ index.map Prod.fst) : removeName category name index = index := by
  induction index with
  | nil => rfl
  | cons entry rest ih =>
    obtain ⟨key, names⟩ := entry
    rw [List.map_cons, List.mem_cons, not_or] at absent
    rw [removeName, if_neg (Ne.symm absent.1), ih absent.2]

/-- A name that is added to a list is found behind the others, and a list that it was alone in goes with it. -/
theorem remove_add_name (fresh : ∀ names, index.lookup category = some names → names ≠ [] ∧ name ∉ names) :
    removeName category name (addName category name index) = index := by
  induction index with
  | nil => simp [addName, removeName]
  | cons entry rest ih =>
    obtain ⟨key, names⟩ := entry
    rw [addName]
    by_cases here : key = category
    · subst here
      obtain ⟨solid, absent⟩ := fresh names (by rw [lookup_cons, if_pos rfl])
      have restored : (names ++ [name]).erase name = names := by
        rw [List.erase_append_right _ absent, List.erase_cons_head, List.append_nil]
      rw [if_pos rfl, removeName, if_pos rfl, restored, if_neg (by simpa using solid)]
    · rw [if_neg here, removeName, if_neg here, ih fun names found => fresh names ?_]
      rw [lookup_cons, if_neg (Ne.symm here), found]

/-- Two names of the list at the head: the list goes as soon as both are out and nothing else is left. -/
theorem remove_head_twice (distinct : category ∉ index.map Prod.fst) (names : List String) :
    removeName category name (removeName category name' ((category, names) :: index))
      = if ((names.erase name').erase name).isEmpty then index
        else (category, (names.erase name').erase name) :: index := by
  rw [removeName, if_pos rfl]
  by_cases gone : names.erase name' = []
  · simp [gone, remove_name_absent distinct]
  · rw [if_neg (by simpa using gone), removeName, if_pos rfl]

theorem remove_head (names : List String) :
    removeName category name ((category, names) :: index)
      = if (names.erase name).isEmpty then index else (category, names.erase name) :: index := by
  rw [removeName, if_pos rfl]

theorem remove_behind (apart : category ≠ other) (names : List String) :
    removeName category name ((other, names) :: index) = (other, names) :: removeName category name index := by
  rw [removeName, if_neg (Ne.symm apart)]

theorem remove_name_comm (distinct : (index.map Prod.fst).Nodup) :
    removeName category name (removeName other name' index)
      = removeName other name' (removeName category name index) := by
  induction index with
  | nil => rfl
  | cons entry rest ih =>
    obtain ⟨key, names⟩ := entry
    rw [List.map_cons, List.nodup_cons] at distinct
    -- Either name may empty the list at the head, which then is gone when the other one is taken out.
    by_cases here : category = key <;> by_cases here' : other = key
    · subst here here'
      rw [remove_head_twice distinct.1, remove_head_twice distinct.1, List.erase_comm]
    · subst here
      rw [remove_behind here', remove_head, remove_head]
      split
      · rfl
      · rw [remove_behind here']
    · subst here'
      rw [remove_behind here, remove_head, remove_head]
      split
      · rfl
      · rw [remove_behind here]
    · rw [remove_behind here', remove_behind here, remove_behind here, remove_behind here', ih distinct.2]

end

/-! Taking out names. -/

theorem unregister_unknown (unknown : catalog.get? name = none) : catalog.unregister name = catalog := by
  rw [unregister, unknown]

theorem unregister_known (found : catalog.get? name = some provider)
    (tag : provider.descriptor.category = .known category) :
    catalog.unregister name = ⟨catalog.byName.erase name, removeName category name catalog.byCategory⟩ := by
  rw [unregister, found]
  simp only [tag]

theorem get_unregister (catalog : Catalog) (name other : String) :
    (catalog.unregister name).get? other = if other = name then none else catalog.get? other := by
  cases found : catalog.get? name with
  | none =>
    rw [unregister_unknown found]
    split
    · rename_i same
      rw [same, found]
    · rfl
  | some provider =>
    have erased : (catalog.unregister name).byName = catalog.byName.erase name := by
      rw [unregister, found]
      cases tag : provider.descriptor.category <;> simp only [tag]
    rw [get?, erased, Table.get?_erase]
    rfl

theorem unregister_idem (catalog : Catalog) (name : String) :
    (catalog.unregister name).unregister name = catalog.unregister name :=
  unregister_unknown (by rw [get_unregister, if_pos rfl])

theorem unregister_registered (indexed : Indexed catalog) (done : catalog.register provider = .ok next) :
    next.unregister provider.name = catalog := by
  obtain ⟨free, complete, category, tag, rfl⟩ := register_ok.1 done
  have absent : provider.name ∉ catalog.byName.keys := by
    rw [← Table.has_iff, ← has, free]
    exact Bool.false_ne_true
  have fresh : ∀ names, catalog.byCategory.lookup category = some names → names ≠ [] ∧ provider.name ∉ names := by
    intro names found
    rw [indexed.listings, listing] at found
    split at found
    · cases found
    · rename_i solid
      rw [Option.some.injEq] at found
      subst found
      refine ⟨solid, fun member => absent ?_⟩
      obtain ⟨twin, inside, called⟩ := List.mem_map.1 member
      rw [← names_of_all indexed, ← called]
      exact List.mem_map_of_mem (List.mem_filter.1 inside).1
  have found : get? ⟨catalog.byName.put provider.name provider,
      addName category provider.name catalog.byCategory⟩ provider.name = some provider := by
    rw [get?, Table.get?_put, if_pos rfl]
  rw [unregister_known found tag, Table.erase_put_of_absent absent, remove_add_name fresh]

theorem unregister_comm (indexed : Indexed catalog) (name name' : String) :
    (catalog.unregister name).unregister name' = (catalog.unregister name').unregister name := by
  by_cases same : name = name'
  · rw [same]
  cases found : catalog.get? name with
  | none =>
    have still : (catalog.unregister name').get? name = none := by rw [get_unregister, if_neg same, found]
    rw [unregister_unknown found, unregister_unknown still]
  | some provider =>
    cases found' : catalog.get? name' with
    | none =>
      have still : (catalog.unregister name).get? name' = none := by
        rw [get_unregister, if_neg (Ne.symm same), found']
      rw [unregister_unknown found', unregister_unknown still]
    | some provider' =>
      obtain ⟨category, tag⟩ := (described_of_get? indexed found).2.known
      obtain ⟨category', tag'⟩ := (described_of_get? indexed found').2.known
      have later : (catalog.unregister name).get? name' = some provider' := by
        rw [get_unregister, if_neg (Ne.symm same), found']
      have later' : (catalog.unregister name').get? name = some provider := by
        rw [get_unregister, if_neg same, found]
      rw [unregister_known later tag', unregister_known later' tag, unregister_known found tag,
        unregister_known found' tag', remove_name_comm indexed.categories, Table.erase_comm]

/-! What queries tell. -/

/-- No query tells the catalogs apart. -/
structure Alike (first second : Catalog) : Prop where
  all : first.all = second.all
  get : ∀ name, first.get? name = second.get? name
  size : first.size = second.size
  inCategory : ∀ text, first.inCategory text = second.inCategory text

theorem by_name_eq (indexed : Indexed catalog) :
    catalog.byName = catalog.all.map fun provider => (provider.name, provider) := by
  rw [all, List.map_map]
  refine (List.map_id _).symm.trans (List.map_congr_left fun entry member => ?_)
  rw [Function.comp_apply, (indexed.described entry member).1]
  rfl

/-- The list of all providers decides every query. -/
theorem alike_of_all (indexed : Indexed catalog) (indexed' : Indexed next) (same : catalog.all = next.all) :
    Alike catalog next where
  all := same
  get name := by rw [get?, get?, by_name_eq indexed, by_name_eq indexed', same]
  size := by rw [size, size, by_name_eq indexed, by_name_eq indexed', same]
  inCategory text := by rw [in_category_eq indexed, in_category_eq indexed', same]

/-- What a registration comes to depends on nothing but whether the name is taken. -/
theorem outcome_of_has (same : catalog.has provider.name = next.has provider.name) :
    (catalog.answer (.register provider)).1 = (next.answer (.register provider)).1 := by
  simp only [Provider.name] at same
  simp only [answer, register]
  cases missing provider.descriptor with
  | cons first more => rfl
  | nil =>
    cases provider.descriptor.category with
    | unknown text => rfl
    | known category =>
      simp only [same]
      cases next.has provider.descriptor.name <;> rfl

theorem record_comm (apart : name ≠ provider.name) (providers : List Provider) :
    record (record providers (.register provider)) (.unregister name)
      = record (record providers (.unregister name)) (.register provider) := by
  have taken : provider.name ∈ (providers.filter (·.name ≠ name)).map Provider.name
      ↔ provider.name ∈ providers.map Provider.name := by
    simp only [List.mem_map, List.mem_filter, decide_eq_true_eq]
    constructor
    · rintro ⟨twin, ⟨member, _⟩, called⟩
      exact ⟨twin, member, called⟩
    · rintro ⟨twin, member, called⟩
      exact ⟨twin, ⟨member, called ▸ Ne.symm apart⟩, called⟩
  have kept : [provider].filter (·.name ≠ name) = [provider] := by simpa using Ne.symm apart
  simp only [record, taken]
  split
  · rw [List.filter_append, kept]
  · rfl

/-- In a catalog that requests have left, a removal undoes the registration that it follows, and removals are idempotent,
without effect on unknown names, and free in their order. A registration and the removal of another name may change
places: the registration comes to the same, and no query tells the catalogs apart. -/
theorem registration_laws (requests : List Request) :
    let catalog := afterAll requests
    (∀ provider next, catalog.register provider = .ok next → next.unregister provider.name = catalog) ∧
    (∀ name, (catalog.unregister name).unregister name = catalog.unregister name) ∧
    (∀ name, catalog.has name = false → catalog.unregister name = catalog) ∧
    (∀ name name', (catalog.unregister name).unregister name' = (catalog.unregister name').unregister name) ∧
    ∀ provider name, name ≠ provider.name →
      (catalog.answer (.register provider)).1 = ((catalog.unregister name).answer (.register provider)).1 ∧
      Alike ((catalog.answer (.register provider)).2.unregister name)
        ((catalog.unregister name).answer (.register provider)).2 := by
  intro catalog
  obtain ⟨indexed, _⟩ := indexed_after_all requests
  refine ⟨fun provider next => unregister_registered indexed, unregister_idem catalog, fun name free => ?_,
    unregister_comm indexed, fun provider name apart => ⟨outcome_of_has ?_, ?_⟩⟩
  · exact unregister_unknown (Option.isNone_iff_eq_none.1 (Option.isSome_eq_false_iff.1 free))
  · have kept : (catalog.unregister name).get? provider.name = catalog.get? provider.name := by
      rw [get_unregister, if_neg (Ne.symm apart)]
    exact congrArg Option.isSome kept.symm
  · have removed := indexed_unregister indexed name
    refine alike_of_all (indexed_unregister (indexed_answer indexed _) name) (indexed_answer removed _) ?_
    rw [unregister_all (indexed_answer indexed _), answer_all indexed, answer_all removed, unregister_all indexed]
    exact record_comm apart _

/-! A provider that is registered in the category of one that leaves. -/

def visitor (name : String) (category : Category) : Provider :=
  .reliable ⟨name, name, .known category, [], [], none, "", "1.0.0"⟩ [] Provider.noPreparation fun _ _ => {}

def visitors : List Request := [.register (visitor "first" .misc), .register (visitor "second" .stack)]

/-- Where the first of a category leaves before the next one comes, the category moves behind the others. -/
theorem registration_laws_visitors :
    let catalog := afterAll visitors
    let last := visitor "last" .misc
    let registered := catalog.answer (.register last)
    let removed := (catalog.unregister "first").answer (.register last)
    registered.2.unregister "last" = catalog ∧ registered.1 = .ok () ∧ removed.1 = .ok () ∧
    Alike (registered.2.unregister "first") removed.2 ∧
    (registered.2.unregister "first").byCategory = [(.misc, ["last"]), (.stack, ["second"])] ∧
    removed.2.byCategory = [(.stack, ["second"]), (.misc, ["last"])] := by
  intro catalog last registered removed
  obtain ⟨restores, _, _, _, exchange⟩ := registration_laws visitors
  obtain ⟨outcome, alike⟩ := exchange last "first" (by decide)
  have done : registered.1 = .ok () := rfl
  exact ⟨restores last registered.2 rfl, done, outcome ▸ done, alike, rfl, rfl⟩

end Handbook.Catalog
