import Handbook.Workspace.Tree

/-!
Questions about a project folder: which package manager its lockfile belongs to, and which of some files
are there. A path that leads nowhere is an answer; only one that is too long is a failure.
-/

namespace Handbook.Workspace

/-- What stands at the end of a path, if anything does. -/
def lookAt (workspace : Workspace) (path : Path) : Except Failure (Option Node) :=
  match workspace.follow path with
  | .ok place => return workspace.node? place
  | .error .tooLong => throw ⟨"OSError", PathFault.tooLong.message path⟩
  | .error _ => return none

def isFolder (workspace : Workspace) (path : Path) : Except Failure Bool :=
  return (← workspace.lookAt path) = some .folder

def isFile (workspace : Workspace) (path : Path) : Except Failure Bool := do
  match ← workspace.lookAt path with
  | some (.file _) => return true
  | _ => return false

/-- Lockfiles and the package managers that write them, in the order in which they are looked for. -/
def lockfiles : List (String × String) :=
  [("bun.lockb", "bun"), ("pnpm-lock.yaml", "pnpm"), ("yarn.lock", "yarn"), ("package-lock.json", "npm")]

/-- The manager of the first lockfile in a folder. -/
def firstLockfile (workspace : Workspace) (root : Path) :
    List (String × String) → Except Failure (Option String)
  | [] => return none
  | (name, manager) :: rest => do
    if ← workspace.isFile (root.join (Path.ofString name)) then return some manager
    else firstLockfile workspace root rest

/-- The package manager in use in a project folder, if a lockfile tells. -/
def packageManager (workspace : Workspace) (root : Option String) : Except Failure (Option String) := do
  match root with
  | none => return none
  | some root =>
    let root := Path.ofString root
    if ← workspace.isFolder root then workspace.firstLockfile root lockfiles else return none

/-- Those of the names that stand for something in a project folder, in the given order. -/
def existing (workspace : Workspace) (root : Option String) (names : List String) :
    Except Failure (List String) := do
  match root with
  | none => return []
  | some root =>
    let root := Path.ofString root
    if ← workspace.isFolder root then
      names.filterM fun name => return (← workspace.lookAt (root.join (Path.ofString name))).isSome
    else return []

end Handbook.Workspace
