import Handbook.Answers.Basic
import Handbook.Text.Case
import Handbook.Workspace.Path

/-!
Settings of a composer: where the template is, whether the environment is looked at, the package manager
of projects that name none, and the version that documents are stamped with. They are read from entries or
from environment variables; what is not given has a default, and entries under other keys do not count.
-/

namespace Handbook

open Workspace

/-- Settings of a composer. Without a path the built-in template is used. -/
structure Settings where
  templatePath : Option Path
  probesEnvironment : Bool
  packageManager : OneOf packageManagers
  version : String

namespace Settings

def default : Settings := ⟨none, true, ⟨"npm", by decide⟩, "2.0.0"⟩

def readPath : Value → Except Misfit Path
  | .str text => .ok (Path.ofString text)
  | _ => .error .notPath

/-- What is read under a key, or a default if there is nothing. -/
def readAt {α : Type} (entries : Table Value) (key : String) (read : Value → Except Misfit α)
    (default : α) : Except Problem α :=
  match entries.get? key with
  | none => .ok default
  | some value => (read value).mapError fun misfit => ⟨key, none, misfit⟩

/-- The problem of a reading, if it has one. -/
def problemOf {α : Type} : Except Problem α → List Problem
  | .ok _ => []
  | .error problem => [problem]

/-- Settings from entries, or all problems in the order of the settings. -/
def ofEntries (entries : Table Value) : Except (List Problem) Settings :=
  let path := readAt entries "template_path" (fun value => (readPath value).map some) none
  let probes := readAt entries "probe_environment" readFlag true
  let manager :=
    readAt entries "default_package_manager" (readChoice packageManagers) default.packageManager
  let version := readAt entries "version" readText default.version
  match path, probes, manager, version with
  | .ok path, .ok probes, .ok manager, .ok version => .ok ⟨path, probes, manager, version⟩
  | _, _, _, _ =>
    .error (problemOf path ++ problemOf probes ++ problemOf manager ++ problemOf version)

/-- The words by which the environment asks to be looked at. -/
def affirmative : List String := ["1", "true", "yes"]

/-- A variable that is set and not empty. -/
def set? (environment : Table String) (name : String) : Option String :=
  (environment.get? name).filter (· ≠ "")

/-- The entries that environment variables stand for. -/
def environmentEntries (environment : Table String) : Table Value :=
  let probes (text : String) : Value :=
    .bool (affirmative.contains (String.ofList (Text.lower text.toList)))
  [("SETUPDOC_TEMPLATE_PATH", "template_path", Value.str),
    ("SETUPDOC_PROBE_ENVIRONMENT", "probe_environment", probes),
    ("SETUPDOC_PACKAGE_MANAGER", "default_package_manager", Value.str)].filterMap
    fun (name, key, value) => (set? environment name).map fun text => (key, value text)

/-- Settings from environment variables. -/
def ofEnvironment (environment : Table String) : Except (List Problem) Settings :=
  ofEntries (environmentEntries environment)

end Settings

end Handbook
