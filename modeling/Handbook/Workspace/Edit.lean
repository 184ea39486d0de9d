import Handbook.Workspace.Tree

/-!
Changing the files of a workspace: writing a file, making a folder, and taking a file away. Folders on the
way are made as needed, the outermost last: a path is tried as a whole before the folder above it. What
has been made stays, even if the change fails later.
-/

namespace Handbook.Workspace

/-- Why something at a path cannot be changed. -/
inductive EditFault where
  | path (fault : PathFault)
  | isFolder
  | taken
  deriving Repr, DecidableEq

def EditFault.message (path : Path) : EditFault → String
  | .path fault => fault.message path
  | .isFolder => s!"[Errno 21] Is a directory: {path.shown}"
  | .taken => s!"[Errno 17] File exists: {path.shown}"

/-- A change of a workspace. It fails at a path, which may be one on the way. -/
abbrev Edit := ExceptT (Path × EditFault) (StateM Workspace)

/-- The path to the folder that holds the end of a path. -/
def Path.above (path : Path) : Path := ⟨path.start, path.names.dropLast⟩

/-- Puts something new at the end of a path that leads to nothing yet. -/
def putNew (path : Path) (node : Node) : Edit Unit := do
  match (← get).follow path.above with
  | .ok place => modify fun workspace => workspace.put (place ++ path.names.getLast?.toList) node
  | .error fault => throw (path, .path fault)

/-- Makes the folder at the end of a path. A folder that is there already will do. -/
def makeFolder (path : Path) : Edit Unit := do
  let workspace ← get
  match workspace.follow path with
  | .ok place => if workspace.node? place ≠ some .folder then throw (path, .taken)
  | .error .missing => putNew path .folder
  | .error fault => throw (path, .path fault)

/-- Makes the folder at the end of a path, and those above it that are missing. The names of the path come
in reverse. -/
def makeFoldersTo (start : Start) : List String → Edit Unit
  | [] => makeFolder ⟨start, []⟩
  | last :: above => do
    let path : Path := ⟨start, (last :: above).reverse⟩
    try makeFolder path
    catch fault =>
      if fault.2 = .path .missing then
        makeFoldersTo start above
        makeFolder path
      else throw fault

/-- Makes a folder and the folders above it. -/
def makeFolders (path : Path) : Edit Unit := makeFoldersTo path.start path.names.reverse

/-- Writes a file; one that is there already is replaced. The folders above it are made. -/
def write (path : Path) (bytes : List UInt8) : Edit Unit := do
  makeFolders path.above
  let workspace ← get
  match workspace.follow path with
  | .ok place =>
    if workspace.node? place = some .folder then throw (path, .isFolder)
    else set (workspace.put place (.file bytes))
  | .error .missing => putNew path (.file bytes)
  | .error fault => throw (path, .path fault)

def delete (path : Path) : Edit Unit := do
  let workspace ← get
  match workspace.follow path with
  | .ok place =>
    match workspace.node? place with
    | some (.file _) => set { workspace with nodes := workspace.nodes.filter (·.1 ≠ place) }
    | _ => throw (path, .isFolder)
  | .error fault => throw (path, .path fault)

end Handbook.Workspace
