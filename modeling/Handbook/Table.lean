/-!
Tables: finite maps from names that remember the order in which their names first appeared. Writing to a
name that is present keeps its place; a name that is taken out and written again moves to the end.
-/

namespace Handbook

/-- Entries in the order of their names' first appearance. -/
abbrev Table (α : Type) := List (String × α)

namespace Table

variable {α : Type}

def get? (table : Table α) (name : String) : Option α := table.lookup name

def keys (table : Table α) : List String := table.map Prod.fst

def has (table : Table α) (name : String) : Bool := (table.get? name).isSome

/-- The table with the value under the name, in the name's place or at the end. -/
def put : Table α → String → α → Table α
  | [], name, value => [(name, value)]
  | (key, old) :: rest, name, value =>
    if key = name then (key, value) :: rest else (key, old) :: put rest name value

/-- The table with every entry of the second one written to it in turn. -/
def merge (table later : Table α) : Table α :=
  later.foldl (fun merged entry => merged.put entry.1 entry.2) table

def erase (table : Table α) (name : String) : Table α := table.filter (·.1 != name)

/-- A table from entries in which a name may be repeated; the last value counts. -/
def ofEntries (entries : List (String × α)) : Table α := merge [] entries

@[simp]
theorem get?_nil (name : String) : get? ([] : Table α) name = none := rfl

theorem get?_cons (key : String) (value : α) (rest : Table α) (name : String) :
    get? ((key, value) :: rest) name = if name = key then some value else get? rest name := by
  rw [get?, List.lookup_cons]
  by_cases same : name = key
  · simp [same]
  · have : (name == key) = false := by simpa using same
    simp [same, this, get?]

@[simp]
theorem get?_put (table : Table α) (name : String) (value : α) (other : String) :
    (table.put name value).get? other = if other = name then some value else table.get? other := by
  induction table with
  | nil => simp [put, get?_cons]
  | cons entry rest ih =>
    obtain ⟨key, old⟩ := entry
    by_cases same : key = name
    · subst same
      by_cases hit : other = key <;> simp [put, get?_cons, hit]
    · by_cases hit : other = key
      · subst hit
        simp [put, get?_cons, same]
      · simp [put, get?_cons, same, hit, ih]

theorem put_put (table : Table α) (name : String) (value later : α) :
    (table.put name value).put name later = table.put name later := by
  induction table with
  | nil => simp [put]
  | cons entry rest ih =>
    obtain ⟨key, old⟩ := entry
    by_cases same : key = name
    · simp [put, same]
    · simp [put, same, ih]

theorem keys_put_of_mem {table : Table α} {name : String} (present : name ∈ table.keys) (value : α) :
    (table.put name value).keys = table.keys := by
  induction table with
  | nil => simp [keys] at present
  | cons entry rest ih =>
    obtain ⟨key, old⟩ := entry
    by_cases same : key = name
    · simp [put, same, keys]
    · have later : name ∈ keys rest := by simpa [keys, Ne.symm same] using present
      simpa [put, same, keys] using ih later

theorem keys_put_of_not_mem {table : Table α} {name : String} (absent : name ∉ table.keys)
    (value : α) : (table.put name value).keys = table.keys ++ [name] := by
  induction table with
  | nil => rfl
  | cons entry rest ih =>
    obtain ⟨key, old⟩ := entry
    have apart : key ≠ name := fun same => absent (by simp [keys, same])
    have later : name ∉ keys rest := fun member => absent (by simp [keys] at member ⊢; simp [member])
    simpa [put, apart, keys] using ih later

/-- Writing never repeats a name. -/
theorem nodup_keys_put {table : Table α} (distinct : table.keys.Nodup) (name : String) (value : α) :
    (table.put name value).keys.Nodup := by
  by_cases present : name ∈ table.keys
  · rwa [keys_put_of_mem present]
  · rw [keys_put_of_not_mem present]
    exact List.nodup_append.2 ⟨distinct, by simp, by
      intro a member b only; simp at only; subst only; exact fun same => present (same ▸ member)⟩

@[simp]
theorem get?_erase (table : Table α) (name other : String) :
    (table.erase name).get? other = if other = name then none else table.get? other := by
  induction table with
  | nil => simp [erase]
  | cons entry rest ih =>
    obtain ⟨key, value⟩ := entry
    simp only [erase] at ih
    by_cases gone : key = name
    · subst gone
      by_cases hit : other = key
      · subst hit
        simpa [erase] using ih
      · simp [erase, get?_cons, hit, ih]
    · by_cases hit : other = key
      · subst hit
        simp [erase, get?_cons, gone]
      · simp [erase, get?_cons, gone, hit, ih]

end Table

end Handbook
