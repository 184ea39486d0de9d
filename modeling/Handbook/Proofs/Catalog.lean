import Handbook.Catalog
import Handbook.Proofs.Table
import Mathlib.Algebra.GroupWithZero.Nat

/-!
The two indices of a catalog. Providers are kept by name, and their names by category; the second index is
what the first one gives when it is read category by category, after any requests. A request that fails
leaves the catalog as it was.
-/

namespace Handbook

namespace Catalog

variable {catalog : Catalog} {category other : Category} {name : String} {provider : Provider}

/-! Requests. -/

inductive Request where
  | register (provider : Provider)
  | unregister (name : String)

/-- The answer to a request, and the catalog that is left. -/
def answer (catalog : Catalog) : Request → Except RegistrationFault Unit × Catalog
  | .register provider =>
    match catalog.register provider with
    | .ok next => (.ok (), next)
    | .error fault => (.error fault, catalog)
  | .unregister name => (.ok (), catalog.unregister name)

/-- The catalog that requests leave of an empty one. -/
def afterAll (requests : List Request) : Catalog :=
  requests.foldl (fun catalog request => (catalog.answer request).2) empty

/-- What a provider needs to be registered, apart from a free name. -/
structure Complete (descriptor : Descriptor) : Prop where
  named : descriptor.name ≠ ""
  displayed : descriptor.displayName ≠ ""
  known : ∃ category, descriptor.category = .known category

instance (descriptor : Descriptor) : Decidable (Complete descriptor) :=
  match tag : descriptor.category with
  | .known category =>
    decidable_of_iff (descriptor.name ≠ "" ∧ descriptor.displayName ≠ "")
      ⟨fun ⟨named, displayed⟩ => ⟨named, displayed, category, tag⟩,
        fun complete => ⟨complete.named, complete.displayed⟩⟩
  | .unknown _ => isFalse fun complete =>
    complete.known.elim fun _ same => CategoryTag.noConfusion (tag.symm.trans same)

/-- What a request does to the providers, if nothing but their order is kept. -/
def record (providers : List Provider) : Request → List Provider
  | .register provider =>
    if Complete provider.descriptor ∧ provider.name ∉ providers.map Provider.name then
      providers ++ [provider]
    else providers
  | .unregister name => providers.filter (·.name ≠ name)

/-- The names of the providers of a category, in the order of registration. -/
def members (catalog : Catalog) (category : Category) : List String :=
  (catalog.all.filter fun provider => provider.descriptor.category = .known category).map Provider.name

/-- An index lists a category only if it has members. -/
def listing (names : List String) : Option (List String) := if names = [] then none else some names

def listed (index : List (Category × List String)) : Nat := (index.map fun entry => entry.2.length).sum

structure Indexed (catalog : Catalog) : Prop where
  distinct : catalog.byName.keys.Nodup
  described : ∀ entry ∈ catalog.byName, entry.2.name = entry.1 ∧ Complete entry.2.descriptor
  categories : (catalog.byCategory.map Prod.fst).Nodup
  listings : ∀ category, catalog.byCategory.lookup category = listing (catalog.members category)
  counted : catalog.size = listed catalog.byCategory

/-! The index by category, read after a change. -/

section

variable {index : List (Category × List String)}

theorem lookup_cons (key : Category) (names : List String) :
    List.lookup other ((key, names) :: index)
      = if other = key then some names else index.lookup other := by
  rw [List.lookup_cons]
  by_cases same : other = key
  · simp [same]
  · have apart : (other == key) = false := by simpa using same
    simp [same, apart]

theorem lookup_add_name : (addName category name index).lookup other
    = if other = category then some ((index.lookup category).getD [] ++ [name])
      else index.lookup other := by
  induction index with
  | nil => simp only [addName, lookup_cons, List.lookup_nil, Option.getD, List.nil_append]
  | cons entry rest ih =>
    obtain ⟨key, names⟩ := entry
    rw [addName]
    by_cases here : key = category
    · subst here
      rw [if_pos rfl, lookup_cons, lookup_cons, lookup_cons, if_pos rfl]
      split <;> simp
    · rw [if_neg here, lookup_cons, ih, lookup_cons, lookup_cons, if_neg (Ne.symm here)]
      by_cases asked : other = key
      · subst asked
        rw [if_pos rfl, if_neg here]
        rw [if_pos rfl]
      · rw [if_neg asked, if_neg asked]

theorem mem_keys_add_name : other ∈ (addName category name index).map Prod.fst ↔
    other = category ∨ other ∈ index.map Prod.fst := by
  induction index with
  | nil => simp [addName]
  | cons entry rest ih =>
    obtain ⟨key, names⟩ := entry
    rw [addName]
    split
    · rename_i here
      subst here
      simp
    · rw [List.map_cons, List.mem_cons, ih, List.map_cons, List.mem_cons]
      exact or_left_comm

theorem keys_add_name_nodup (distinct : (index.map Prod.fst).Nodup) :
    ((addName category name index).map Prod.fst).Nodup := by
  induction index with
  | nil => simp [addName]
  | cons entry rest ih =>
    obtain ⟨key, names⟩ := entry
    rw [List.map_cons, List.nodup_cons] at distinct
    rw [addName]
    split
    · rwa [List.map_cons, List.nodup_cons]
    · rename_i apart
      rw [List.map_cons, List.nodup_cons]
      refine ⟨fun member => ?_, ih distinct.2⟩
      exact (mem_keys_add_name.1 member).elim apart distinct.1

theorem listed_add_name : listed (addName category name index) = listed index + 1 := by
  induction index with
  | nil => rfl
  | cons entry rest ih =>
    obtain ⟨key, names⟩ := entry
    simp only [listed] at ih
    rw [addName]
    split
    · simp only [listed, List.map_cons, List.sum_cons, List.length_append, List.length_singleton]
      omega
    · simp only [listed, List.map_cons, List.sum_cons, ih]
      omega

theorem keys_remove_name : ((removeName category name index).map Prod.fst).Sublist (index.map Prod.fst) := by
  induction index with
  | nil => exact .slnil
  | cons entry rest ih =>
    obtain ⟨key, names⟩ := entry
    rw [removeName]
    split
    · split
      · exact List.sublist_cons_self _ _
      · exact .refl _
    · exact .cons_cons _ ih

theorem lookup_eq_none (absent : other ∉ index.map Prod.fst) : index.lookup other = none := by
  induction index with
  | nil => rfl
  | cons entry rest ih =>
    obtain ⟨key, names⟩ := entry
    rw [List.map_cons, List.mem_cons, not_or] at absent
    rw [lookup_cons, if_neg absent.1, ih absent.2]

theorem mem_keys_iff : other ∈ index.map Prod.fst ↔ ∃ names, index.lookup other = some names := by
  induction index with
  | nil => simp
  | cons entry rest ih =>
    obtain ⟨key, names⟩ := entry
    rw [List.map_cons, List.mem_cons, lookup_cons, ih]
    by_cases same : other = key
    · simp [same]
    · simp [same]

/-- What is left of a list, if anything is. -/
theorem lookup_remove_name {names : List String} (distinct : (index.map Prod.fst).Nodup)
    (found : index.lookup category = some names) : (removeName category name index).lookup other
      = if other = category then listing (names.erase name) else index.lookup other := by
  induction index with
  | nil => exact absurd found (by simp)
  | cons entry rest ih =>
    obtain ⟨key, here⟩ := entry
    rw [List.map_cons, List.nodup_cons] at distinct
    rw [lookup_cons] at found
    rw [removeName]
    by_cases same : key = category
    · subst same
      rw [if_pos rfl, Option.some.injEq] at found
      subst found
      rw [if_pos rfl, listing]
      by_cases none : here.erase name = []
      · rw [if_pos (by simp [none]), if_pos none, lookup_cons]
        split
        · rename_i asked
          rw [asked, lookup_eq_none distinct.1]
        · rfl
      · rw [if_neg (by simp [none]), if_neg none, lookup_cons, lookup_cons]
        split <;> rfl
    · rw [if_neg (Ne.symm same)] at found
      rw [if_neg same, lookup_cons, lookup_cons, ih distinct.2 found]
      by_cases asked : other = key
      · subst asked
        rw [if_pos rfl, if_neg same, if_pos rfl]
      · rw [if_neg asked, if_neg asked]

theorem listed_remove_name {names : List String} (found : index.lookup category = some names)
    (member : name ∈ names) : listed (removeName category name index) + 1 = listed index := by
  induction index with
  | nil => exact absurd found (by simp)
  | cons entry rest ih =>
    obtain ⟨key, here⟩ := entry
    rw [lookup_cons] at found
    rw [removeName]
    by_cases same : key = category
    · subst same
      rw [if_pos rfl, Option.some.injEq] at found
      subst found
      have shorter := List.length_erase_of_mem member
      have some := List.length_pos_of_mem member
      rw [if_pos rfl]
      by_cases none : here.erase name = []
      · rw [none, List.length_nil] at shorter
        simp only [none, List.isEmpty_nil, if_true, listed, List.map_cons, List.sum_cons]
        omega
      · simp only [List.isEmpty_iff, none, if_false, listed, List.map_cons, List.sum_cons]
        omega
    · rw [if_neg (Ne.symm same)] at found
      have later := ih found
      simp only [listed] at later
      simp only [same, if_false, listed, List.map_cons, List.sum_cons]
      omega

end

/-! A request. -/

theorem category_name_ne (category : Category) : category.name ≠ "" := by cases category <;> decide

theorem missing_nil {descriptor : Descriptor} (known : descriptor.category = .known category) :
    missing descriptor = [] ↔ descriptor.name ≠ "" ∧ descriptor.displayName ≠ "" := by
  by_cases first : descriptor.name = "" <;> by_cases second : descriptor.displayName = "" <;>
    simp [missing, known, CategoryTag.text, category_name_ne, first, second]

/-- A provider is registered at the end, if it is complete and its name is free. -/
theorem register_ok {next : Catalog} : catalog.register provider = .ok next ↔
    catalog.has provider.name = false ∧ Complete provider.descriptor ∧
      ∃ category, provider.descriptor.category = .known category ∧
        next = ⟨catalog.byName.put provider.name provider,
          addName category provider.name catalog.byCategory⟩ := by
  simp only [register]
  cases tag : provider.descriptor.category with
  | unknown text =>
    constructor
    · intro done
      split at done
      · exact absurd done (by simp)
      · exact absurd done (by simp)
      · rename_i same
        exact absurd same (by simp)
    · rintro ⟨_, _, category, same, _⟩
      exact absurd same (by simp)
  | known category =>
    have nothing := missing_nil tag
    cases gone : missing provider.descriptor with
    | cons first more =>
      constructor
      · intro done
        exact absurd done (by simp)
      · rintro ⟨_, complete, _⟩
        rw [nothing.2 ⟨complete.named, complete.displayed⟩] at gone
        exact absurd gone (by simp)
    | nil =>
      obtain ⟨named, displayed⟩ := nothing.1 gone
      have complete : Complete provider.descriptor := ⟨named, displayed, category, tag⟩
      cases free : catalog.has provider.name with
      | true => simp [Provider.name] at free; simp [free]
      | false =>
        simp only [Provider.name] at free
        simp [free, complete, Provider.name, eq_comm]

theorem indexed_empty : Indexed empty where
  distinct := List.nodup_nil
  described _ member := absurd member List.not_mem_nil
  categories := List.nodup_nil
  listings _ := rfl
  counted := rfl

theorem name_mem (indexed : Indexed catalog) (member : provider ∈ catalog.all) :
    (provider.name, provider) ∈ catalog.byName := by
  obtain ⟨⟨key, here⟩, inside, same⟩ := List.mem_map.1 member
  subst same
  rw [(indexed.described _ inside).1]
  exact inside

theorem names_of_all (indexed : Indexed catalog) : catalog.all.map Provider.name = catalog.byName.keys := by
  rw [all, Table.keys, List.map_map]
  exact List.map_congr_left fun entry member => (indexed.described entry member).1

theorem members_nodup (indexed : Indexed catalog) : (catalog.members category).Nodup := by
  have distinct := indexed.distinct
  rw [← names_of_all indexed] at distinct
  exact distinct.sublist (List.filter_sublist.map _)

theorem described_of_get? (indexed : Indexed catalog) (found : catalog.get? name = some provider) :
    provider.name = name ∧ Complete provider.descriptor := indexed.described _ (Table.mem_of_get? found)

theorem mem_members (indexed : Indexed catalog) (found : catalog.get? name = some provider)
    (tag : provider.descriptor.category = .known category) : name ∈ catalog.members category := by
  have inside : provider ∈ catalog.all := List.mem_map.2 ⟨_, Table.mem_of_get? found, rfl⟩
  refine List.mem_map.2 ⟨provider, List.mem_filter.2 ⟨inside, ?_⟩, (described_of_get? indexed found).1⟩
  simpa using tag

theorem getD_listing (names : List String) : (listing names).getD [] = names := by
  rw [listing]
  split
  · rename_i none
    rw [none]
    rfl
  · rfl

theorem members_append (index : List (Category × List String)) :
    members ⟨catalog.byName ++ [(name, provider)], index⟩ other = catalog.members other
      ++ if provider.descriptor.category = .known other then [provider.name] else [] := by
  rw [members, all, List.map_append, List.filter_append, List.map_append, ← all, ← members]
  split <;> simp [*]

theorem indexed_register {next : Catalog} (indexed : Indexed catalog)
    (done : catalog.register provider = .ok next) : Indexed next := by
  obtain ⟨free, complete, category, tag, rfl⟩ := register_ok.1 done
  have absent : provider.name ∉ catalog.byName.keys := by
    rw [← Table.has_iff, ← has, free]
    exact Bool.false_ne_true
  have grown : catalog.byName.put provider.name provider = catalog.byName ++ [(provider.name, provider)] :=
    Table.put_of_absent absent
  refine ⟨?_, ?_, keys_add_name_nodup indexed.categories, fun other => ?_, ?_⟩
  · exact Table.nodup_keys_put indexed.distinct _ _
  · rw [grown]
    intro entry member
    rcases List.mem_append.1 member with early | last
    · exact indexed.described entry early
    · rw [List.mem_singleton.1 last]
      exact ⟨rfl, complete⟩
  · rw [lookup_add_name, indexed.listings, indexed.listings, getD_listing, grown, members_append, tag]
    by_cases same : other = category
    · subst same
      simp [listing]
    · have apart : CategoryTag.known category ≠ .known other := fun equal =>
        same (CategoryTag.known.inj equal).symm
      rw [if_neg same, if_neg apart, List.append_nil]
  · rw [listed_add_name, ← indexed.counted, size, size, grown, List.length_append, List.length_singleton]

theorem members_erase (indexed : Indexed catalog) (index : List (Category × List String)) :
    members ⟨catalog.byName.erase name, index⟩ category = (catalog.members category).erase name := by
  rw [(members_nodup indexed).erase_eq_filter]
  simp only [members, all, Table.erase, List.filter_map, List.map_map, List.filter_filter]
  refine congrArg _ (List.filter_congr fun entry member => ?_)
  simp only [Function.comp_apply, (indexed.described entry member).1, Bool.and_comm]

theorem indexed_unregister (indexed : Indexed catalog) (name : String) : Indexed (catalog.unregister name) := by
  rw [unregister]
  split
  · exact indexed
  · rename_i provider found
    obtain ⟨category, tag⟩ := (described_of_get? indexed found).2.known
    have member := mem_members indexed found tag
    have full : catalog.byCategory.lookup category = some (catalog.members category) := by
      rw [indexed.listings, listing, if_neg (List.ne_nil_of_mem member)]
    have fewer : (catalog.byName.erase name).Sublist catalog.byName := List.filter_sublist
    simp only [tag]
    refine ⟨indexed.distinct.sublist (fewer.map _), fun entry later => ?_,
      indexed.categories.sublist keys_remove_name, fun other => ?_, ?_⟩
    · exact indexed.described entry (fewer.subset later)
    · rw [lookup_remove_name indexed.categories full, members_erase indexed]
      split
      · rename_i asked
        rw [asked]
      · rename_i asked
        have elsewhere : name ∉ catalog.members other := by
          intro wrong
          obtain ⟨twin, here, called⟩ := List.mem_map.1 wrong
          have kept := List.mem_filter.1 here
          have known := Table.get?_of_mem indexed.distinct (name_mem indexed kept.1)
          rw [called] at known
          have alike := known.symm.trans found
          rw [Option.some.injEq] at alike
          subst alike
          have clash : CategoryTag.known category = .known other := by simpa [tag] using kept.2
          exact asked (CategoryTag.known.inj clash).symm
        rw [indexed.listings, List.erase_of_not_mem elsewhere]
    · have shorter := listed_remove_name full member
      have smaller := Table.length_erase_of_get? indexed.distinct found
      have counted := indexed.counted
      simp only [size] at counted ⊢
      omega

/-! What the indices say. -/

theorem has_name_iff (indexed : Indexed catalog) :
    catalog.has name = true ↔ name ∈ catalog.all.map Provider.name := by
  rw [names_of_all indexed, has, Table.has_iff]

theorem names_in_eq (indexed : Indexed catalog) (category : Category) :
    catalog.namesIn category = catalog.members category := by
  rw [namesIn, indexed.listings, getD_listing]

theorem listed_iff (indexed : Indexed catalog) (category : Category) :
    category ∈ catalog.byCategory.map Prod.fst ↔ catalog.namesIn category ≠ [] := by
  rw [mem_keys_iff, names_in_eq indexed, indexed.listings, listing]
  split <;> simp [*]

/-- No name in the index is unknown. -/
theorem members_found (indexed : Indexed catalog) (category : Category) :
    (catalog.members category).map catalog.get?
      = (catalog.all.filter fun provider => provider.descriptor.category = .known category).map some := by
  rw [members, List.map_map]
  refine List.map_congr_left fun provider member => ?_
  exact Table.get?_of_mem indexed.distinct (name_mem indexed (List.mem_filter.1 member).1)

theorem name_of_category {text : String} (found : Category.ofName? text = some category) :
    category.name = text := by
  have same := List.find?_some found
  simpa using same

theorem tag_of_text (complete : Complete provider.descriptor) {text : String}
    (same : provider.descriptor.category.text = text) :
    ∃ category, Category.ofName? text = some category ∧ provider.descriptor.category = .known category := by
  obtain ⟨category, tag⟩ := complete.known
  rw [tag] at same
  subst same
  exact ⟨category, Category.ofName?_name category, tag⟩

theorem in_category_eq (indexed : Indexed catalog) (text : String) :
    catalog.inCategory text
      = catalog.all.filter fun provider => provider.descriptor.category.text = text := by
  have complete : ∀ provider ∈ catalog.all, Complete provider.descriptor := by
    intro provider member
    exact (indexed.described _ (name_mem indexed member)).2
  rw [inCategory]
  cases found : Category.ofName? text with
  | none =>
    refine (List.filter_eq_nil_iff.2 fun provider member same => ?_).symm
    obtain ⟨category, known, _⟩ := tag_of_text (complete provider member) (of_decide_eq_true same)
    rw [found] at known
    exact absurd known (by simp)
  | some category =>
    have through := congrArg (List.filterMap id) (members_found indexed category)
    rw [List.filterMap_map, List.filterMap_map, Function.id_comp, Function.id_comp,
      List.filterMap_some] at through
    refine (congrArg (List.filterMap catalog.get?) (names_in_eq indexed category)).trans ?_
    refine through.trans (List.filter_congr fun provider member => ?_)
    refine decide_eq_decide.2 ⟨fun tag => ?_, fun same => ?_⟩
    · rw [tag]
      exact name_of_category found
    · obtain ⟨other, known, tag⟩ := tag_of_text (complete provider member) same
      rw [found, Option.some.injEq] at known
      rw [tag, known]

/-- A provider is turned away for one of three reasons. -/
theorem register_fails_iff : (∃ fault, catalog.register provider = .error fault) ↔
    (provider.descriptor.name = "" ∨ provider.descriptor.displayName = ""
      ∨ provider.descriptor.category.text = "")
    ∨ (∃ text, provider.descriptor.category = .unknown text)
    ∨ catalog.has provider.name = true := by
  constructor
  · rintro ⟨fault, failed⟩
    by_contra fine
    simp only [not_or, not_exists] at fine
    obtain ⟨⟨named, displayed, _⟩, known, free⟩ := fine
    cases tag : provider.descriptor.category with
    | unknown text => exact known text tag
    | known category =>
      have done := register_ok.2 ⟨Bool.eq_false_iff.2 free, ⟨named, displayed, category, tag⟩, category, tag, rfl⟩
      rw [failed] at done
      exact absurd done (by simp)
  · intro flawed
    cases done : catalog.register provider with
    | error fault => exact ⟨fault, rfl⟩
    | ok next =>
      obtain ⟨free, complete, category, tag, _⟩ := register_ok.1 done
      rcases flawed with (unnamed | hidden | blank) | ⟨text, unknown⟩ | taken
      · exact absurd unnamed complete.named
      · exact absurd hidden complete.displayed
      · rw [tag] at blank
        exact absurd blank (category_name_ne category)
      · rw [tag] at unknown
        exact absurd unknown (by simp)
      · rw [free] at taken
        exact absurd taken Bool.false_ne_true

theorem answer_register {fault : RegistrationFault}
    (failed : (catalog.answer (.register provider)).1 = .error fault) :
    catalog.register provider = .error fault ∧ (catalog.answer (.register provider)).2 = catalog := by
  rw [answer] at failed ⊢
  cases done : catalog.register provider with
  | ok next => rw [done] at failed; exact absurd failed (by simp)
  | error other => rw [done] at failed; exact ⟨congrArg _ (by simpa using failed), rfl⟩

/-! Every catalog that requests leave. -/

theorem indexed_answer (indexed : Indexed catalog) (request : Request) : Indexed (catalog.answer request).2 := by
  cases request with
  | unregister name => exact indexed_unregister indexed name
  | register provider =>
    rw [answer]
    cases done : catalog.register provider with
    | ok next => exact indexed_register indexed done
    | error fault => exact indexed

theorem unregister_all (indexed : Indexed catalog) (name : String) :
    (catalog.unregister name).all = catalog.all.filter (·.name ≠ name) := by
  have kept : (catalog.byName.erase name).map Prod.snd = catalog.all.filter (·.name ≠ name) := by
    rw [all, Table.erase, List.filter_map]
    refine congrArg _ (List.filter_congr fun entry member => ?_)
    rw [Bool.eq_iff_iff, Function.comp_apply, (indexed.described entry member).1]
    simp
  rw [unregister]
  split
  · rename_i unknown
    rw [← kept, Table.erase, List.filter_eq_self.2, all]
    intro entry member
    have known : catalog.get? entry.1 = some entry.2 := Table.get?_of_mem indexed.distinct member
    have apart : entry.1 ≠ name := by
      rintro rfl
      rw [unknown] at known
      exact absurd known (by simp)
    simpa using apart
  · split
    · exact kept
    · exact kept

theorem answer_all (indexed : Indexed catalog) (request : Request) :
    (catalog.answer request).2.all = record catalog.all request := by
  cases request with
  | unregister name =>
    rw [answer, record, unregister_all indexed]
  | register provider =>
    rw [answer, record]
    cases done : catalog.register provider with
    | ok next =>
      obtain ⟨free, complete, category, _, rfl⟩ := register_ok.1 done
      have absent : provider.name ∉ catalog.all.map Provider.name := by
        rw [← has_name_iff indexed, free]
        exact Bool.false_ne_true
      rw [if_pos ⟨complete, absent⟩, all, Table.put_of_absent, List.map_append]
      · rfl
      · rwa [← names_of_all indexed]
    | error fault =>
      rw [if_neg]
      rintro ⟨complete, absent⟩
      obtain ⟨category, tag⟩ := complete.known
      rw [← has_name_iff indexed, Bool.not_eq_true] at absent
      rw [register_ok.2 ⟨absent, complete, category, tag, rfl⟩] at done
      exact absurd done (by simp)

theorem indexed_after_all (requests : List Request) :
    Indexed (afterAll requests) ∧ (afterAll requests).all = requests.foldl record [] := by
  have run : ∀ (requests : List Request) (catalog : Catalog), Indexed catalog →
      Indexed (requests.foldl (fun catalog request => (catalog.answer request).2) catalog) ∧
      (requests.foldl (fun catalog request => (catalog.answer request).2) catalog).all
        = requests.foldl record catalog.all := by
    intro requests
    induction requests with
    | nil => exact fun catalog indexed => ⟨indexed, rfl⟩
    | cons request rest ih =>
      intro catalog indexed
      rw [List.foldl_cons, List.foldl_cons, ← answer_all indexed]
      exact ih _ (indexed_answer indexed request)
  exact run requests empty indexed_empty

/-- The indices refine one ordered list of providers, whatever has been asked for. A name is in the first index
only for a complete provider of that name; the second index gives every category's names in the order of the
first, and is never out of step with it. A failed registration changes nothing. -/
theorem indices_agree (requests : List Request) :
    let catalog := afterAll requests
    catalog.all = requests.foldl record [] ∧
    catalog.byName.keys.Nodup ∧ (catalog.byCategory.map Prod.fst).Nodup ∧
    (∀ entry ∈ catalog.byName, entry.1 = entry.2.name ∧ entry.1 ≠ "" ∧ entry.2.descriptor.displayName ≠ "" ∧
      ∃ category, entry.2.descriptor.category = .known category) ∧
    (∀ category,
      let providers := catalog.all.filter fun provider => provider.descriptor.category = .known category
      catalog.namesIn category = providers.map Provider.name ∧ (catalog.namesIn category).Nodup ∧
      (category ∈ catalog.byCategory.map Prod.fst ↔ catalog.namesIn category ≠ []) ∧
      (catalog.namesIn category).map catalog.get? = providers.map some) ∧
    (∀ text, catalog.inCategory text
      = catalog.all.filter fun provider => provider.descriptor.category.text = text) ∧
    catalog.size = (catalog.byCategory.map fun entry => entry.2.length).sum ∧
    (∀ provider, ((∃ fault, catalog.register provider = .error fault) ↔
      (provider.descriptor.name = "" ∨ provider.descriptor.displayName = ""
        ∨ provider.descriptor.category.text = "")
      ∨ (∃ text, provider.descriptor.category = .unknown text)
      ∨ provider.name ∈ catalog.byName.keys) ∧
      ∀ fault, (catalog.answer (.register provider)).1 = .error fault →
        (catalog.answer (.register provider)).2 = catalog) := by
  intro catalog
  obtain ⟨indexed, recorded⟩ := indexed_after_all requests
  refine ⟨recorded, indexed.distinct, indexed.categories, fun entry member => ?_, fun category => ?_,
    in_category_eq indexed, indexed.counted, fun provider => ⟨?_, fun fault failed => ?_⟩⟩
  · obtain ⟨same, complete⟩ := indexed.described entry member
    rw [← same]
    exact ⟨rfl, complete.named, complete.displayed, complete.known⟩
  · refine ⟨names_in_eq indexed category, ?_, listed_iff indexed category, ?_⟩
    · rw [names_in_eq indexed]
      exact members_nodup indexed
    · rw [names_in_eq indexed]
      exact members_found indexed category
  · rw [← Table.has_iff]
    exact register_fails_iff
  · exact (answer_register failed).2

end Catalog

end Handbook
