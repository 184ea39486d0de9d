import Handbook.Template.Piece
import Handbook.Text.Trim
import Handbook.Unicode.Word

/-!
The shapes of tags. Every recogniser looks at the start of a text only and takes a tag as a whole or not
at all. A block and a loop take everything up to the tag that closes them.
-/

namespace Handbook.Template

open Text Unicode

/-- `{{` opens every tag. -/
def openMark : List Char := ['\x7b', '\x7b']

/-- `}}` closes every tag. -/
def closeMark : List Char := ['\x7d', '\x7d']

/-- `{{>` opens the tag of a partial. -/
def partialMark : List Char := openMark ++ ['>']

/-- `{{#if` opens a conditional block. -/
def ifMark : List Char := openMark ++ ['#', 'i', 'f']

/-- `{{else}}` parts a conditional block. -/
def elseMark : List Char := openMark ++ ['e', 'l', 's', 'e'] ++ closeMark

/-- `{{/if}}` closes a conditional block. -/
def endIfMark : List Char := openMark ++ ['/', 'i', 'f'] ++ closeMark

/-- `{{#each` opens a loop. -/
def eachMark : List Char := openMark ++ ['#', 'e', 'a', 'c', 'h']

/-- `{{/each}}` closes a loop. -/
def endEachMark : List Char := openMark ++ ['/', 'e', 'a', 'c', 'h'] ++ closeMark

/-- What follows the mark, if the text starts with it. -/
def after? : List Char → List Char → Option (List Char)
  | [], text => some text
  | _ :: _, [] => none
  | m :: mark, c :: rest => if m = c then after? mark rest else none

/-- What stands before and after the first occurrence of the mark. -/
def splitAt? (mark : List Char) : List Char → Option (List Char × List Char)
  | [] => if mark = [] then some ([], []) else none
  | c :: rest =>
    match after? mark (c :: rest) with
    | some later => some ([], later)
    | none => (splitAt? mark rest).map fun (before, later) => (c :: before, later)

/-- `{{> name}}` with any blanks around the name. -/
def partialTag? : Recogniser String := fun text => do
  let body ← after? partialMark text
  let before := body.takeWhile isBlank
  let inner := body.drop before.length
  let name := inner.takeWhile isWord
  guard (name ≠ [])
  let behind := inner.drop name.length
  let blanks := behind.takeWhile isBlank
  let _ ← after? closeMark (behind.drop blanks.length)
  return (String.ofList name,
    partialMark.length + before.length + name.length + blanks.length + closeMark.length)

/-- What a tag says behind its keyword: a blank and at least one more character, none of them a closing
brace, and the text after the tag. -/
def operand? (text : List Char) : Option (List Char × List Char) := do
  let inner := text.takeWhile (· ≠ '\x7d')
  guard (2 ≤ inner.length)
  guard ((inner.head?.map isBlank).getD false)
  let later ← after? closeMark (text.drop inner.length)
  return (inner, later)

/-- A tag that opens a block: the path between the blanks, how many characters the tag takes, and the text
after it. -/
structure Opening where
  path : List Char
  size : Nat
  inside : List Char

def opening? (mark text : List Char) : Option Opening := do
  let body ← after? mark text
  let (inner, later) ← operand? body
  return ⟨trim inner, mark.length + inner.length + closeMark.length, later⟩

/-- A letter or the underscore, in ASCII. -/
def isNameStart (c : Char) : Bool := c.isAlpha || c = '_'

/-- A letter, a digit or the underscore, in ASCII. -/
def isNameChar (c : Char) : Bool := c.isAlphanum || c = '_'

/-- A text cut at its dots; the dots are left out. -/
def splitDots : List Char → List (List Char)
  | [] => [[]]
  | c :: rest =>
    if c = '.' then [] :: splitDots rest
    else
      match splitDots rest with
      | [] => [[c]]
      | first :: more => (c :: first) :: more

/-- Whether the text is a variable path: a name, with an optional `@` in front, and further parts behind
dots. -/
def isVariablePath (text : List Char) : Bool :=
  let body := if text.head? = some '@' then text.drop 1 else text
  match splitDots body with
  | [] => false
  | first :: more =>
    (first.head?.map isNameStart).getD false && first.all isNameChar
      && more.all fun part => part ≠ [] && part.all isNameChar

def isPathChar (c : Char) : Bool := isNameChar c || c = '.' || c = '@'

/-- `{{path}}` without blanks. -/
def variableTag? : Recogniser (List Char) := fun text => do
  let body ← after? openMark text
  let path := body.takeWhile isPathChar
  guard (isVariablePath path)
  let _ ← after? closeMark (body.drop path.length)
  return (path, openMark.length + path.length + closeMark.length)

/-- A helper's name and what is written behind it. -/
structure HelperCall where
  name : String
  arguments : List Char

/-- `{{name arguments}}`. -/
def helperTag? : Recogniser HelperCall := fun text => do
  let body ← after? openMark text
  let name := body.takeWhile isWord
  guard (name ≠ [])
  let (inner, _) ← operand? (body.drop name.length)
  return (⟨String.ofList name, inner⟩,
    openMark.length + name.length + inner.length + closeMark.length)

/-- A loop: the path of the list and the body. -/
structure Loop where
  path : List Char
  body : List Char

/-- `{{#each path}} body {{/each}}`; the body ends at the first closing tag. -/
def loopTag? : Recogniser Loop := fun text => do
  let opened ← opening? eachMark text
  let (body, _) ← splitAt? endEachMark opened.inside
  return (⟨opened.path, body⟩, opened.size + body.length + endEachMark.length)

theorem after?_append (mark text : List Char) : after? mark (mark ++ text) = some text := by
  induction mark with
  | nil => cases text <;> rfl
  | cons m mark ih => simp [after?, ih]

theorem eq_append_of_after? {mark text later : List Char} (found : after? mark text = some later) :
    text = mark ++ later := by
  induction mark generalizing text with
  | nil => simpa [after?] using found
  | cons m mark ih => cases text with
    | nil => simp [after?] at found
    | cons c rest =>
      by_cases same : m = c
      · simp only [after?, same, if_true] at found
        simp [same, ih found]
      · simp [after?, same] at found

theorem eq_append_of_splitAt? {mark text before later : List Char}
    (found : splitAt? mark text = some (before, later)) : text = before ++ mark ++ later := by
  induction text generalizing before with
  | nil =>
    by_cases empty : mark = []
    · simp [splitAt?, empty] at found
      simp [empty, found]
    · simp [splitAt?, empty] at found
  | cons c rest ih =>
    rw [splitAt?] at found
    split at found
    · next next? =>
      simp only [Option.some.injEq, Prod.mk.injEq] at found
      obtain ⟨rfl, rfl⟩ := found
      simpa using eq_append_of_after? next?
    · simp only [Option.map_eq_some_iff, Prod.exists, Prod.mk.injEq] at found
      obtain ⟨first, last, split, rfl, rfl⟩ := found
      simp [ih split]

end Handbook.Template
