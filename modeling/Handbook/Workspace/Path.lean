import Handbook.Text.Quoted

/-!
Paths. A path starts from the folder at hand or from the top and leads on through names. Empty names and
`.` lead nowhere and are left out; `..` is kept, for it depends on what is there.
-/

namespace Handbook.Workspace

/-- Where a path starts. Exactly two slashes in front are a start of their own. -/
inductive Start where
  | here
  | top
  | network
  deriving Repr, DecidableEq

structure Path where
  start : Start
  names : List String
  deriving Repr, DecidableEq

namespace Path

/-- The parts of a text between its slashes. -/
def splitSlashes : List Char → List (List Char)
  | [] => [[]]
  | c :: rest =>
    if c = '/' then [] :: splitSlashes rest
    else
      match splitSlashes rest with
      | [] => [[c]]
      | first :: more => (c :: first) :: more

/-- The start that a text announces by its leading slashes. -/
def startOf (text : List Char) : Start :=
  match (text.takeWhile (· = '/')).length with
  | 0 => .here
  | 2 => .network
  | _ => .top

def ofString (text : String) : Path :=
  ⟨startOf text.toList,
    ((splitSlashes text.toList).filter fun part => part ≠ [] && part ≠ ['.']).map String.ofList⟩

def Start.text : Start → String
  | .here => ""
  | .top => "/"
  | .network => "//"

/-- The path as text; the folder at hand is `.`. -/
def text (path : Path) : String :=
  if path.start = .here ∧ path.names = [] then "."
  else Start.text path.start ++ "/".intercalate path.names

/-- The second path taken from where the first one leads. One that starts from the top replaces it. -/
def join (path later : Path) : Path :=
  match later.start with
  | .here => ⟨path.start, path.names ++ later.names⟩
  | _ => later

/-- The path in quotes, as it is shown in messages. -/
def shown (path : Path) : String := Text.quotedString path.text

example : (ofString "a//b/./c/").text = "a/b/c" := by decide
example : (ofString "//x/..").text = "//x/.." := by decide
example : (ofString "").text = "." := by decide

end Path

end Handbook.Workspace
