import Handbook.Failure
import Handbook.Workspace.Path

/-!
The files of a workspace. A place is named by the folders that lead to it from the top. One of the folders is
the one at hand, where relative paths start; other paths start at the top.
-/

namespace Handbook

open Workspace

inductive Workspace.Node where
  | file (bytes : List UInt8)
  | folder
  deriving Repr, DecidableEq

/-- The names that lead to a place from the top. -/
abbrev Workspace.Place := List String

/-- The files and the folders that there are, each with its place, and the folder at hand. The top itself is
always there and is not listed. -/
structure Workspace where
  nodes : List (Place × Node)
  home : Place

namespace Workspace

/-- Why a path leads nowhere. -/
inductive PathFault where
  | missing
  | notFolder
  | tooLong
  | nulCharacter
  deriving Repr, DecidableEq

def PathFault.message (path : Path) : PathFault → String
  | .missing => s!"[Errno 2] No such file or directory: {path.shown}"
  | .notFolder => s!"[Errno 20] Not a directory: {path.shown}"
  | .tooLong => s!"[Errno 36] File name too long: {path.shown}"
  | .nulCharacter => "embedded null byte"

/-- A folder at hand below the top, with nothing in it. -/
def empty : Workspace := ⟨[(["work"], .folder)], ["work"]⟩

/-- What stands at a place, if anything does. -/
def node? (workspace : Workspace) (place : Place) : Option Node :=
  if place = [] then some .folder else workspace.nodes.lookup place

def nameLimit : Nat := 255

def pathLimit : Nat := 4095

/-- One name on from a place; `..` leads back, and from the top to the top. -/
def enter (workspace : Workspace) (place : Place) (name : String) : Except PathFault Place :=
  match workspace.node? place with
  | none => throw .missing
  | some (.file _) => throw .notFolder
  | some .folder =>
    if name = ".." then return place.dropLast
    else if nameLimit < name.utf8ByteSize then throw .tooLong
    else if (workspace.node? (place ++ [name])).isSome then return place ++ [name]
    else throw .missing

/-- The place where a path begins. -/
def origin (workspace : Workspace) : Start → Place
  | .here => workspace.home
  | .top | .network => []

/-- The place that a path leads to. -/
def follow (workspace : Workspace) (path : Path) : Except PathFault Place :=
  if path.text.toList.contains '\x00' then throw .nulCharacter
  else if pathLimit < path.text.utf8ByteSize then throw .tooLong
  else path.names.foldlM workspace.enter (workspace.origin path.start)

/-- The workspace with something at a place where there may be something else. -/
def put (workspace : Workspace) (place : Place) (node : Node) : Workspace :=
  { workspace with nodes := (place, node) :: workspace.nodes.filter (·.1 ≠ place) }

end Workspace

end Handbook
