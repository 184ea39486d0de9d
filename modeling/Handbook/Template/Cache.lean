import Handbook.Table
import Handbook.Workspace.Reading

/-!
Caches of template texts. A text is kept under the path as it was given and is read once; a failed read
leaves no trace. Only clearing takes texts out.
-/

namespace Handbook.Template

open Workspace

/-- Template texts by path. -/
abbrev Cache := Table String

/-- Why a template could not be loaded. A path that holds a NUL character is no path at all and is told
apart from one under which nothing can be read. -/
inductive LoadFault where
  | unreadable (path : String) (fault : ReadFault)
  | notPath
  deriving Repr, DecidableEq

def LoadFault.message : LoadFault → String
  | .unreadable path fault =>
    s!"Failed to load template {path}: {fault.message (Path.ofString path)}"
  | .notPath => PathFault.nulCharacter.message (Path.ofString "")

namespace Cache

/-- The text of the template at a path, from the cache or else from the workspace, and the cache that is
left. -/
def load (workspace : Workspace) (cache : Cache) (path : String) : Except LoadFault String × Cache :=
  match cache.get? path with
  | some text => (.ok text, cache)
  | none =>
    match workspace.readText (Path.ofString path) with
    | .ok text => (.ok text, cache.put path text)
    | .error (.path .nulCharacter) => (.error .notPath, cache)
    | .error fault => (.error (.unreadable path fault), cache)

/-- A text that is in the cache is what loading gives, whatever the workspace holds. -/
theorem load_of_get? {cache : Cache} {path text : String} (kept : cache.get? path = some text)
    (workspace : Workspace) : cache.load workspace path = (.ok text, cache) := by
  simp [load, kept]

/-- Loading without a result leaves the cache as it was. -/
theorem load_error {workspace : Workspace} {cache : Cache} {path : String} {fault : LoadFault}
    (failed : (cache.load workspace path).1 = .error fault) :
    (cache.load workspace path).2 = cache := by
  unfold load at failed ⊢
  split
  · rfl
  · split <;> simp_all

end Cache

end Handbook.Template
