import Handbook.Table
import Mathlib.Data.List.Basic
import Mathlib.Data.List.Nodup

/-!
Looking into tables whose names are distinct: what is found under a name after something has been written,
merged or taken out. Of several values that are merged under one name the last one counts, and the name keeps
the place where it first appeared.
-/

namespace Handbook.Table

variable {α : Type} {table later : Table α} {name : String} {value : α}

theorem has_iff : table.has name = true ↔ name ∈ table.keys := by
  induction table with
  | nil => simp [has, keys]
  | cons entry rest ih =>
    obtain ⟨key, here⟩ := entry
    rw [has] at ih
    rw [has, get?_cons, keys, List.map_cons, List.mem_cons]
    by_cases same : name = key
    · simp [same]
    · rw [if_neg same, ih, keys]
      simp [same]

theorem get?_of_absent (absent : name ∉ table.keys) : table.get? name = none := by
  rw [← has_iff, has] at absent
  simpa using absent

theorem mem_of_get? (found : table.get? name = some value) : (name, value) ∈ table := by
  induction table with
  | nil => exact absurd found (by simp)
  | cons entry rest ih =>
    obtain ⟨key, here⟩ := entry
    rw [get?_cons] at found
    by_cases same : name = key
    · rw [if_pos same, Option.some.injEq] at found
      rw [same, found]
      exact List.mem_cons_self ..
    · rw [if_neg same] at found
      exact List.mem_cons_of_mem _ (ih found)

theorem get?_of_mem (distinct : table.keys.Nodup) (member : (name, value) ∈ table) :
    table.get? name = some value := by
  induction table with
  | nil => exact absurd member List.not_mem_nil
  | cons entry rest ih =>
    obtain ⟨key, here⟩ := entry
    rw [keys, List.map_cons, List.nodup_cons] at distinct
    rw [get?_cons]
    rcases List.mem_cons.1 member with same | later
    · rw [Prod.mk.injEq] at same
      rw [if_pos same.1, same.2]
    · have apart : name ≠ key := by
        rintro rfl
        exact distinct.1 (List.mem_map.2 ⟨_, later, rfl⟩)
      rw [if_neg apart]
      exact ih distinct.2 later

theorem put_of_absent (absent : name ∉ table.keys) : table.put name value = table ++ [(name, value)] := by
  induction table with
  | nil => rfl
  | cons entry rest ih =>
    obtain ⟨key, old⟩ := entry
    rw [keys, List.map_cons, List.mem_cons, not_or] at absent
    rw [put, if_neg (Ne.symm absent.1), ih absent.2]
    rfl

theorem erase_comm (table : Table α) (first second : String) :
    (table.erase first).erase second = (table.erase second).erase first := List.filter_comm ..

/-- What is written under a new name is taken out again. -/
theorem erase_put_of_absent (absent : name ∉ table.keys) (value : α) : (table.put name value).erase name = table := by
  rw [put_of_absent absent, erase, List.filter_append, List.filter_eq_self.2]
  · simp
  · intro entry member
    have apart : entry.1 ≠ name := fun same => absent (same ▸ List.mem_map_of_mem member)
    simpa using apart

theorem length_erase_of_get? (distinct : table.keys.Nodup) (found : table.get? name = some value) :
    (table.erase name).length + 1 = table.length := by
  have member : name ∈ table.keys := List.mem_map.2 ⟨_, mem_of_get? found, rfl⟩
  have left : (table.erase name).keys = table.keys.erase name := by
    rw [distinct.erase_eq_filter, keys, keys, erase, List.filter_map]
    rfl
  have shorter := List.length_erase_of_mem member
  have solid := List.length_pos_of_mem member
  rw [← left] at shorter
  simp only [keys, List.length_map] at shorter solid
  omega

theorem merge_cons (entry : String × α) : table.merge (entry :: later)
    = (table.put entry.1 entry.2).merge later := rfl

theorem get?_merge_of_absent (absent : name ∉ later.keys) : (table.merge later).get? name = table.get? name := by
  induction later generalizing table with
  | nil => rfl
  | cons entry rest ih =>
    rw [keys, List.map_cons, List.mem_cons, not_or] at absent
    rw [merge_cons, ih absent.2, get?_put, if_neg absent.1]

/-- The entries under the names are the same in two tables. -/
def Same (names : List String) (table table' : Table α) : Prop := ∀ name ∈ names, table'.get? name = table.get? name

theorem Same.trans {names : List String} {table table' table'' : Table α} (first : Same names table table')
    (second : Same names table' table'') : Same names table table'' :=
  fun name member => (second name member).trans (first name member)

theorem same_put {names : List String} (apart : name ∉ names) (table : Table α) (value : α) :
    Same names table (table.put name value) := by
  intro other member
  have different : other ≠ name := fun same => apart (same ▸ member)
  rw [get?_put, if_neg different]

theorem same_merge {names : List String} (apart : ∀ name ∈ names, name ∉ later.keys) (table : Table α) :
    Same names table (table.merge later) :=
  fun _ member => get?_merge_of_absent (apart _ member)

theorem get?_merge_of_get? (distinct : later.keys.Nodup) (found : later.get? name = some value) :
    (table.merge later).get? name = some value := by
  induction later generalizing table with
  | nil => exact absurd found (by simp)
  | cons entry rest ih =>
    obtain ⟨key, here⟩ := entry
    rw [keys, List.map_cons, List.nodup_cons] at distinct
    rw [get?_cons] at found
    rw [merge_cons]
    by_cases same : name = key
    · subst same
      rw [if_pos rfl] at found
      rw [get?_merge_of_absent distinct.1, get?_put, if_pos rfl]
      exact found
    · rw [if_neg same] at found
      exact ih distinct.2 found

/-! Values that are written one after the other. -/

/-- The last value among the entries of a name. -/
def latest? (entries : Table α) (name : String) : Option α := get? entries.reverse name

theorem latest?_cons (entry : String × α) (rest : Table α) (name : String) :
    latest? (entry :: rest) name = (latest? rest name).or (if name = entry.1 then some entry.2 else none) := by
  obtain ⟨key, here⟩ := entry
  have last : get? [(key, here)] name = if name = key then some here else none := by
    rw [get?_cons, get?_nil]
  unfold latest?
  rw [List.reverse_cons, ← last]
  exact List.lookup_append

theorem latest?_append (first second : Table α) (name : String) :
    latest? (first ++ second) name = (latest? second name).or (latest? first name) := by
  rw [latest?, List.reverse_append]
  exact List.lookup_append

theorem latest?_of_absent (absent : name ∉ table.keys) : latest? table name = none := by
  apply get?_of_absent
  rwa [keys, List.map_reverse, List.mem_reverse]

theorem get?_merge (table later : Table α) (name : String) :
    (table.merge later).get? name = (latest? later name).or (table.get? name) := by
  induction later generalizing table with
  | nil => rfl
  | cons entry rest ih =>
    rw [merge_cons, ih, get?_put, latest?_cons, Option.or_assoc]
    congr 1
    by_cases same : name = entry.1
    · rw [if_pos same, if_pos same, Option.some_or]
    · rw [if_neg same, if_neg same, Option.none_or]

theorem mem_put {entry : String × α} (member : entry ∈ table.put name value) :
    entry ∈ table ∨ entry = (name, value) := by
  induction table with
  | nil => exact .inr (List.mem_singleton.1 member)
  | cons first rest ih =>
    obtain ⟨key, old⟩ := first
    rw [put] at member
    by_cases same : key = name
    · rw [if_pos same, List.mem_cons] at member
      rcases member with rfl | later
      · exact .inr (by rw [same])
      · exact .inl (List.mem_cons_of_mem _ later)
    · rw [if_neg same, List.mem_cons] at member
      rcases member with rfl | later
      · exact .inl (List.mem_cons_self ..)
      · exact (ih later).imp_left (List.mem_cons_of_mem _)

/-- What has been merged was in one table or in the other. -/
theorem mem_merge {entry : String × α} (member : entry ∈ table.merge later) : entry ∈ table ∨ entry ∈ later := by
  induction later generalizing table with
  | nil => exact .inl member
  | cons first rest ih =>
    rw [merge_cons] at member
    rcases ih member with earlier | inside
    · rcases mem_put earlier with before | rfl
      · exact .inl before
      · exact .inr (List.mem_cons_self ..)
    · exact .inr (List.mem_cons_of_mem _ inside)

theorem merge_append (table first second : Table α) :
    table.merge (first ++ second) = (table.merge first).merge second :=
  List.foldl_append

theorem erase_dups_of_distinct {names : List String} (distinct : names.Nodup) : names.eraseDups = names := by
  induction names with
  | nil => rfl
  | cons name rest ih =>
    rw [List.nodup_cons] at distinct
    have kept : rest.filter (fun other => !other == name) = rest := by
      rw [List.filter_eq_self]
      intro other member
      have apart : other ≠ name := by
        intro same
        exact distinct.1 (same ▸ member)
      simpa using apart
    rw [List.eraseDups_cons, kept, ih distinct.2]

/-- Merging keeps names where they are and adds new ones at the end, each where it first appears. -/
theorem keys_merge (distinct : table.keys.Nodup) (later : Table α) :
    (table.merge later).keys = (table.keys ++ later.keys).eraseDups := by
  induction later generalizing table with
  | nil =>
    rw [show keys ([] : Table α) = [] from rfl, List.append_nil, erase_dups_of_distinct distinct]
    rfl
  | cons entry rest ih =>
    rw [merge_cons, ih (nodup_keys_put distinct entry.1 entry.2)]
    by_cases present : entry.1 ∈ table.keys
    · have seen : (keys (entry :: rest)).removeAll table.keys = (keys rest).removeAll table.keys := by
        have found : List.elem entry.1 table.keys = true := List.elem_eq_true_of_mem present
        rw [keys, List.map_cons, List.removeAll, List.filter_cons, found]
        rfl
      rw [keys_put_of_mem present, List.eraseDups_append, List.eraseDups_append, seen]
    · rw [keys_put_of_not_mem present, List.append_assoc]
      rfl

/-! Tables whose values are translated. -/

variable {β : Type}

theorem map_put (write : α → β) (table : Table α) (name : String) (value : α) :
    (table.put name value).map (fun entry => (entry.1, write entry.2))
      = put (table.map fun entry => (entry.1, write entry.2)) name (write value) := by
  induction table with
  | nil => rfl
  | cons entry rest ih =>
    rw [put, List.map_cons, put]
    by_cases same : entry.1 = name
    · rw [if_pos same, if_pos same]
      rfl
    · rw [if_neg same, if_neg same, List.map_cons, ih]

theorem map_merge (write : α → β) (table later : Table α) :
    (table.merge later).map (fun entry => (entry.1, write entry.2))
      = merge (table.map fun entry => (entry.1, write entry.2)) (later.map fun entry => (entry.1, write entry.2)) := by
  induction later generalizing table with
  | nil => rfl
  | cons entry rest ih => rw [merge_cons, ih, List.map_cons, merge_cons, map_put]

end Handbook.Table
