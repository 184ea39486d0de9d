import Handbook.Failure
import Handbook.Template.Tag
import Handbook.Text.Case
import Handbook.Value.Text

/-!
Helpers: functions that a template calls by name. The built-in ones fail only over a value that has no text;
a missing argument counts as null.
-/

namespace Handbook.Template

open Text

abbrev Helper := List Value → Except Failure Value

/-- The argument at a place, or null. -/
def argument (values : List Value) (place : Nat) : Value := values[place]?.getD .null

/-- `true` if the first argument is true, else nothing. -/
def ifHelper : Helper := fun values => return .str (if (argument values 0).isTrue then "true" else "")

/-- `true` unless the first argument is true. -/
def unlessHelper : Helper := fun values =>
  return .str (if (argument values 0).isTrue then "" else "true")

/-- `{{this}}` marks where a repeated text takes the item. -/
def thisMark : List Char := openMark ++ ['t', 'h', 'i', 's'] ++ closeMark

/-- The text with every mark replaced, from left to right. -/
def replaceMark (mark replacement : List Char) (text : List Char) : List Char :=
  (cut (fun rest => (after? mark rest).map fun _ => ((), mark.length)) text).flatMap fun
    | .plain plain => plain
    | .tag _ _ => replacement

/-- A pattern with an item in the place of its marks. -/
def repeatFor (pattern item : Value) : Except Failure (List Char) := do
  let text ← pattern.toText Value.shown
  return replaceMark thisMark (← item.toText Value.inserted).toList text.toList

/-- The second argument once for every item of the first one. -/
def eachHelper : Helper := fun values => do
  match argument values 0 with
  | .list items =>
    return .str (String.ofList (← items.mapM (repeatFor (values[1]?.getD (Value.str "")))).flatten)
  | _ => return .str ""

/-- The items of the first argument joined with the second one, or with a comma and a space. -/
def joinHelper : Helper := fun values => do
  match argument values 0 with
  | .list items =>
    let separator ← (values[1]?.getD (Value.str ", ")).toText Value.inserted
    return .str (separator.intercalate (← items.mapM (·.toText Value.inserted)))
  | _ => return .str ""

def uppercaseHelper : Helper := fun values => do
  return .str (String.ofList (upper (← (argument values 0).toText Value.inserted).toList))

def lowercaseHelper : Helper := fun values => do
  return .str (String.ofList (lower (← (argument values 0).toText Value.inserted).toList))

/-- The helpers that every engine starts with. -/
def builtinHelpers : Table Helper :=
  [("if", ifHelper), ("unless", unlessHelper), ("each", eachHelper), ("join", joinHelper),
    ("uppercase", uppercaseHelper), ("lowercase", lowercaseHelper)]

end Handbook.Template
