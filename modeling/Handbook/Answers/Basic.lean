import Handbook.Answers.Field
import Handbook.Text.Trim

/-!
Answers. A record of raw answers is first made regular: nulls are dropped, texts are trimmed, and a single
value stands for a list of one where a list is asked for. Every field is then looked up under its
camel-case key and only if that is absent under its other key; an entry that no field has taken is kept as
an extra. All problems are found, in the order of the fields.
-/

namespace Handbook

/-- What has been answered about a project: a value for every field, and extras. -/
structure Answers where
  values : (field : Field) → field.shape.Carrier
  extras : Table Value

/-- A part of raw answers that does not fit: its key, the place in a list, and the reason. -/
structure Problem where
  key : String
  place : Option Nat
  misfit : Misfit
  deriving Repr, DecidableEq

/-- Where the problem is; `config` if it is the answers as a whole. -/
def Problem.location (problem : Problem) : String :=
  match problem.place with
  | some place => s!"{problem.key}.{place}"
  | none => if problem.key = "" then "config" else problem.key

def Problem.message (problem : Problem) : String :=
  s!"{problem.location}: {problem.misfit.message}"

/-- All problems in one line. -/
def Problem.summary (problems : List Problem) : String :=
  "; ".intercalate (problems.map Problem.message)

namespace Answers

/-- Whether a list of names is asked for under a key, in either spelling. -/
def isListKey (key : String) : Bool :=
  Field.all.any fun field => field.isList && (field.camelKey = key || field.snakeKey = key)

/-- A raw answer in regular form; nothing if it is null. -/
def regular? (key : String) (value : Value) : Option Value :=
  let wrap (value : Value) : Value := if isListKey key then .list [value] else value
  match value with
  | .null => none
  | .str text => some (wrap (.str (Text.trimString text)))
  | .list items => some (.list items)
  | other => some (wrap other)

def regular (entries : Table Value) : Table Value :=
  entries.filterMap fun (key, value) => (regular? key value).map fun value => (key, value)

/-- The entry that answers a field. -/
def locate (entries : Table Value) (field : Field) : Option (String × Value) :=
  match entries.get? field.camelKey with
  | some value => some (field.camelKey, value)
  | none => (entries.get? field.snakeKey).map fun value => (field.snakeKey, value)

def readField (entries : Table Value) (field : Field) : Except (List Problem) field.shape.Carrier :=
  match locate entries field with
  | none => .ok field.shape.absent
  | some (key, value) =>
    (field.shape.read value).mapError fun misfits =>
      misfits.map fun (place, misfit) => ⟨key, place, misfit⟩

def fieldProblems (entries : Table Value) (field : Field) : List Problem :=
  match readField entries field with
  | .ok _ => []
  | .error problems => problems

def problems (entries : Table Value) : List Problem := Field.all.flatMap (fieldProblems entries)

/-- The value of a field that has no problems. -/
def valueOf (entries : Table Value) (field : Field) : field.shape.Carrier :=
  match readField entries field with
  | .ok value => value
  | .error _ => field.shape.absent

/-- Whether a field is answered by the entry under a key. -/
def isTaken (entries : Table Value) (key : String) : Bool :=
  Field.all.any fun field => (locate entries field).map (·.1) = some key

/-- Answers from entries in regular form, or all their problems. -/
def ofRegular (entries : Table Value) : Except (List Problem) Answers :=
  match problems entries with
  | [] => .ok ⟨valueOf entries, entries.filter fun entry => !isTaken entries entry.1⟩
  | found => .error found

/-- Answers from raw entries, or all their problems. -/
def ofEntries (entries : Table Value) : Except (List Problem) Answers := ofRegular (regular entries)

/-- Answers from a raw value, which has to be a record. -/
def ofValue : Value → Except (List Problem) Answers
  | .record entries => ofEntries entries
  | _ => .error [⟨"", none, .notRecord⟩]

def none : Answers := ⟨fun field => field.shape.absent, []⟩

/-- The answers as a record: the fields that are not absent in their order, then the extras. -/
def toRecord (answers : Answers) : Table Value :=
  (Field.all.filterMap fun field =>
    (field.shape.write (answers.values field)).map fun value => (field.camelKey, value))
    ++ answers.extras

/-- The values of all fields in their order, under their other keys; null for one that is absent. -/
def fieldValues (answers : Answers) : Table Value :=
  Field.all.map fun field =>
    (field.snakeKey, (field.shape.write (answers.values field)).getD .null)

def extra (answers : Answers) (key : String) (default : Value) : Value :=
  (answers.extras.get? key).getD default

/-- The values that are proposed while questions are asked. -/
def proposals : Table Value :=
  [("packageManager", .str "npm"), ("wantAdvancedOptions", .bool false),
    ("preferredWorkflow", .str "standard"), ("saveProfile", .bool true)]

/-! Single answers; a custom name is what is given where none of the known ones fits. -/

def chosen {names : List String} (choice : Option (OneOf names)) : Option String :=
  choice.map OneOf.name

def projectType (answers : Answers) : Option String := chosen (answers.values .projectType)

def stack (answers : Answers) : Option String := answers.values .stack

def customStack (answers : Answers) : Option String := answers.values .customStack

def language (answers : Answers) : Option String := chosen (answers.values .language)

def customLanguage (answers : Answers) : Option String := answers.values .customLanguage

def packageManager (answers : Answers) : Option String := chosen (answers.values .packageManager)

def database (answers : Answers) : Option String := chosen (answers.values .database)

def customDatabase (answers : Answers) : Option String := answers.values .customDatabase

def authentication (answers : Answers) : Option String := chosen (answers.values .authentication)

def customAuthentication (answers : Answers) : Option String := answers.values .customAuthentication

def styling (answers : Answers) : Option String := chosen (answers.values .styling)

def componentLibrary (answers : Answers) : Option String := chosen (answers.values .componentLibrary)

def testing (answers : Answers) : Option String := chosen (answers.values .testing)

def deployment (answers : Answers) : Option String := chosen (answers.values .deployment)

def codeStyle (answers : Answers) : List String := (answers.values .codeStyle).map OneOf.name

def assistantBehavior (answers : Answers) : List String :=
  (answers.values .assistantBehavior).map OneOf.name

def gitCommitStyle (answers : Answers) : Option String := chosen (answers.values .gitCommitStyle)

def branchStrategy (answers : Answers) : Option String := chosen (answers.values .branchStrategy)

def mcpServers (answers : Answers) : List String := (answers.values .mcpServers).map OneOf.name

def preferredWorkflow (answers : Answers) : Option String :=
  chosen (answers.values .preferredWorkflow)

def teamFeatures (answers : Answers) : List String := (answers.values .teamFeatures).map OneOf.name

def saveProfile (answers : Answers) : Bool := answers.values .saveProfile

def profileName (answers : Answers) : Option String := answers.values .profileName

def projectRoot (answers : Answers) : Option String := answers.values .projectRoot

end Answers

end Handbook
