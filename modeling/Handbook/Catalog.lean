import Handbook.Provider.Basic
import Handbook.Text.Quoted

/-!
The catalog of providers. It is kept by name and by category; both are in the order of registration, and a
category is listed only while it has providers. Features and compatibility are asked of providers that are
bound to no answers.
-/

namespace Handbook

/-- Providers by name, and their names by category. -/
structure Catalog where
  byName : Table Provider
  byCategory : List (Category × List String)

/-- Why a provider is not registered, or not found. -/
inductive RegistrationFault where
  | incomplete (missing : List String) (name : String)
  | unknownCategory (name category : String)
  | duplicate (name : String)
  | notFound (name : String)
  deriving Repr, DecidableEq

namespace RegistrationFault

def message : RegistrationFault → String
  | incomplete missing _ => "Invalid provider descriptor: missing " ++ ", ".intercalate missing
  | unknownCategory name category =>
    s!"Invalid category for provider {name}: {Text.quotedString category}"
  | duplicate name => s!"Provider {name} is already registered"
  | notFound name => s!"Provider {name} not found"

def name : RegistrationFault → String
  | incomplete _ name => name
  | unknownCategory name _ => name
  | duplicate name => name
  | notFound name => name

end RegistrationFault

/-- Two providers that do not go together, and why. -/
structure Conflict where
  first : String
  second : String
  reason : String
  deriving Repr, DecidableEq

namespace Catalog

def empty : Catalog := ⟨[], []⟩

def size (catalog : Catalog) : Nat := catalog.byName.length

def has (catalog : Catalog) (name : String) : Bool := catalog.byName.has name

def get? (catalog : Catalog) (name : String) : Option Provider := catalog.byName.get? name

def all (catalog : Catalog) : List Provider := catalog.byName.map Prod.snd

/-! Registration. -/

/-- The required parts of a descriptor that are empty. -/
def missing (descriptor : Descriptor) : List String :=
  ([("name", descriptor.name), ("display_name", descriptor.displayName),
    ("category", descriptor.category.text)].filter (·.2 = "")).map Prod.fst

/-- The lists by category with a name at the end of one of them. -/
def addName (category : Category) (name : String) :
    List (Category × List String) → List (Category × List String)
  | [] => [(category, [name])]
  | (key, names) :: rest =>
    if key = category then (key, names ++ [name]) :: rest
    else (key, names) :: addName category name rest

/-- The lists by category without a name in one of them, and without that list if it has become empty. -/
def removeName (category : Category) (name : String) :
    List (Category × List String) → List (Category × List String)
  | [] => []
  | (key, names) :: rest =>
    if key = category then
      if (names.erase name).isEmpty then rest else (key, names.erase name) :: rest
    else (key, names) :: removeName category name rest

def register (catalog : Catalog) (provider : Provider) : Except RegistrationFault Catalog :=
  let descriptor := provider.descriptor
  match missing descriptor, descriptor.category with
  | first :: more, _ => .error (.incomplete (first :: more) descriptor.name)
  | [], .unknown text => .error (.unknownCategory descriptor.name text)
  | [], .known category =>
    if catalog.has descriptor.name then .error (.duplicate descriptor.name)
    else
      .ok ⟨catalog.byName.put descriptor.name provider,
        addName category descriptor.name catalog.byCategory⟩

/-- The catalog without a provider; a name that is not registered changes nothing. -/
def unregister (catalog : Catalog) (name : String) : Catalog :=
  match catalog.get? name with
  | none => catalog
  | some provider =>
    match provider.descriptor.category with
    | .known category => ⟨catalog.byName.erase name, removeName category name catalog.byCategory⟩
    | .unknown _ => ⟨catalog.byName.erase name, catalog.byCategory⟩

def ofList (providers : List Provider) : Except RegistrationFault Catalog :=
  providers.foldlM register empty

/-! Queries. -/

def namesIn (catalog : Catalog) (category : Category) : List String :=
  (catalog.byCategory.lookup category).getD []

/-- The providers in a category, by its name. -/
def inCategory (catalog : Catalog) (category : String) : List Provider :=
  match Category.ofName? category with
  | none => []
  | some category => (catalog.namesIn category).filterMap catalog.get?

def withFeature (catalog : Catalog) (feature : String) : Except Failure (List Provider) :=
  catalog.all.filterM fun provider => do
    provider.bindTo Answers.none
    provider.supports Answers.none {} feature

def forLanguage (catalog : Catalog) (language : String) : List Provider :=
  catalog.all.filter (·.descriptor.languages.contains language)

def forProjectType (catalog : Catalog) (projectType : String) : List Provider :=
  catalog.all.filter (·.descriptor.projectTypes.contains projectType)

/-- The provider of a name, or the fault that there is none. -/
def find (catalog : Catalog) (name : String) : Except RegistrationFault Provider :=
  match catalog.get? name with
  | some provider => .ok provider
  | none => .error (.notFound name)

/-! Compatibility. -/

/-- The other providers that accept a provider and are accepted by it. -/
def compatibleWith (catalog : Catalog) (name : String) : Except Failure (List Provider) :=
  match catalog.get? name with
  | none => return []
  | some target => do
    target.bindTo Answers.none
    (catalog.all.filter (·.name ≠ name)).filterM fun other => do
      other.bindTo Answers.none
      if ← other.accepts name then target.accepts other.name else return false

/-- The conflict between two providers, if one of them does not accept the other. -/
def conflict? (first second : Provider) : Except Failure (Option Conflict) := do
  let reason (a b : Provider) : String := s!"{a.name} is incompatible with {b.name}"
  if !(← first.accepts second.name) then
    return some ⟨first.name, second.name, reason first second⟩
  else if !(← second.accepts first.name) then
    return some ⟨first.name, second.name, reason second first⟩
  else return none

/-- The conflicts between one provider and those after it. -/
def conflictsWith (first : Provider) : List Provider → Except Failure (List Conflict)
  | [] => return []
  | second :: rest => do
    let found ← conflict? first second
    return found.toList ++ (← conflictsWith first rest)

/-- The conflicts between any two of the providers, in order. -/
def conflictsAmong : List Provider → Except Failure (List Conflict)
  | [] => return []
  | first :: rest => do
    let found ← conflictsWith first rest
    return found ++ (← conflictsAmong rest)

/-- The conflicts among the named providers, all of which are bound before the first is asked; names that are
not registered do not count. -/
def conflicts (catalog : Catalog) (names : List String) : Except Failure (List Conflict) := do
  let known := names.filterMap catalog.get?
  known.forM fun provider => provider.bindTo Answers.none
  conflictsAmong known

end Catalog

end Handbook
