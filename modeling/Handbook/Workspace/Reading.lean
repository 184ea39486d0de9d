import Handbook.Text.Utf8
import Handbook.Workspace.Tree

/-!
Reading the text of a file. Files hold UTF-8; every line ending is read as a line feed and a byte order
mark is kept.
-/

namespace Handbook.Workspace

open Text

/-- Why a file has no text. -/
inductive ReadFault where
  | path (fault : PathFault)
  | isFolder
  | undecodable (fault : Utf8.Fault)
  deriving Repr, DecidableEq

def ReadFault.message (path : Path) : ReadFault → String
  | .path fault => fault.message path
  | .isFolder => s!"[Errno 21] Is a directory: {path.shown}"
  | .undecodable fault => fault.message

/-- The text that a file's bytes stand for. -/
def decodeText (bytes : List UInt8) : Except Utf8.Fault String :=
  (Utf8.decode bytes).map fun text => String.ofList (Utf8.unifyLines text)

def readText (workspace : Workspace) (path : Path) : Except ReadFault String := do
  let place ← (workspace.follow path).mapError .path
  match workspace.node? place with
  | some (.file bytes) => (decodeText bytes).mapError .undecodable
  | some .folder => throw .isFolder
  | none => throw (.path .missing)

end Handbook.Workspace
