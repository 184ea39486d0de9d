import Handbook.Template.Tag

/-!
Templates as trees, and how they are written. Branches and loop bodies are templates themselves.
-/

namespace Handbook.Template

inductive Node where
  | text (written : String)
  | variable (path : String)
  | branch (path : String) (whenTrue : List Node) (whenFalse : Option (List Node))
  | loop (path : String) (body : List Node)
  | call (helper : String) (arguments : String)
  | expand (partialName : String)

/-- A tag that opens a block at a path. -/
def writeOpening (mark : List Char) (path : String) : List Char :=
  mark ++ ' ' :: path.toList ++ closeMark

mutual

/-- A part of a template as it is written. -/
def Node.write : Node → List Char
  | .text written => written.toList
  | .variable path => openMark ++ path.toList ++ closeMark
  | .branch path whenTrue none => writeOpening ifMark path ++ writeAll whenTrue ++ endIfMark
  | .branch path whenTrue (some whenFalse) =>
    writeOpening ifMark path ++ writeAll whenTrue ++ elseMark ++ writeAll whenFalse ++ endIfMark
  | .loop path body => writeOpening eachMark path ++ writeAll body ++ endEachMark
  | .call helper arguments => openMark ++ helper.toList ++ ' ' :: arguments.toList ++ closeMark
  | .expand partialName => partialMark ++ ' ' :: partialName.toList ++ closeMark

/-- A template as it is written. -/
def writeAll : List Node → List Char
  | [] => []
  | node :: rest => node.write ++ writeAll rest

end

end Handbook.Template
