import Handbook.Template.Piece

/-!
Console markup. A tag stands in square brackets; a backslash before it makes it plain text. Escaping puts
plain text into markup: no bracket in it acts as a tag.
-/

namespace Handbook.Console

open Template

/-- Whether a character may stand behind the bracket that opens a tag. -/
def opensTag (c : Char) : Bool :=
  ('a' ≤ c && c ≤ 'z') || c = '#' || c = '/' || c = '@'

/-- The length of the tag at the start of a text: an opening bracket, a character that may follow it, and
everything up to the next closing bracket, without another opening one. -/
def tagLength? : List Char → Option Nat
  | '[' :: c :: rest =>
    let body := rest.takeWhile fun d => d ≠ '[' && d ≠ ']'
    if opensTag c && (rest.drop body.length).head? = some ']' then some (body.length + 3) else none
  | _ => none

/-- A tag and the backslashes before it. -/
structure Tag where
  backslashes : List Char
  text : List Char

/-- Recognises a tag with all the backslashes before it. -/
def tag? : Recogniser Tag := fun text =>
  let backslashes := text.takeWhile (· = '\\')
  let rest := text.drop backslashes.length
  (tagLength? rest).map fun size => (⟨backslashes, rest.take size⟩, backslashes.length + size)

/-- Whether a text ends with exactly one backslash. -/
def endsWithBackslash (text : List Char) : Bool :=
  match text.reverse with
  | '\\' :: '\\' :: _ => false
  | '\\' :: _ => true
  | _ => false

/-- The text with a backslash more before every tag, and those that were there doubled. -/
def escapeTags (text : List Char) : List Char :=
  (cut tag? text).flatMap fun
    | .plain plain => plain
    | .tag tag _ => tag.backslashes ++ tag.backslashes ++ '\\' :: tag.text

/-- Plain text as markup. A backslash that stands alone at the end is doubled, lest it should act on what
follows. -/
def escape (text : String) : String :=
  let escaped := escapeTags text.toList
  String.ofList (if endsWithBackslash escaped then escaped ++ ['\\'] else escaped)

example : escape "[a]b]" = "\\[a]b]" := by decide
example : escape "[[a]]" = "[\\[a]]" := by decide

end Handbook.Console
