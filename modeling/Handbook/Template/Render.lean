import Handbook.Template.Argument
import Handbook.Template.Block
import Handbook.Template.Helper

/-!
Rendering. A template goes through five passes, each of which works on what the one before has left:
partials, conditionals, loops, variables and helpers. The text of a partial, of a branch and of a loop body
is rendered through all five before it is put in place.

Ways to end without a text are kept apart: a fault of the template, a value or a helper, and running out of
nesting levels.
A branch takes one level, a partial and a round of a loop take two each. The partials that are being
expanded are the state of a rendering; one that includes itself is left as it is.
-/

namespace Handbook.Template

open Text

/-- What a template may call on besides its context. -/
structure Scope where
  helpers : Table Helper
  partials : Table String

/-- The text that is rendered inside of another one. -/
inductive Nesting where
  | inclusion
  | branch
  | round
  deriving Repr, DecidableEq

/-- Why a rendering ends without a text. -/
inductive Fault where
  | numeral (fault : Numeral.Fault)
  | unwritable
  | helper (failure : Failure)
  | tooDeep
  deriving Repr, DecidableEq

/-- The words for a fault. What finds no room any more is a comparison: look-ups go deeper than any other step
of a rendering. -/
def Fault.message : Fault → String
  | .numeral fault => fault.message
  | .unwritable => Value.unwritable.text
  | .helper failure => failure.text
  | .tooDeep => "maximum recursion depth exceeded in comparison"

/-- A step of a rendering. The state holds the names of the partials that are being expanded, the
innermost first; it survives a fault. -/
abbrev Render := ExceptT Fault (StateM (List String))

/-- Runs a step while the partial counts as being expanded. It no longer does afterwards, whether the step
succeeds or not. -/
def within {α : Type} (name : String) (step : Render α) : Render α := ExceptT.mk do
  modify (name :: ·)
  let result ← step.run
  modify List.tail
  return result

/-- A look-up as a step of a rendering. -/
def reading {α : Type} (result : Except Numeral.Fault α) : Render α :=
  match result with
  | .ok value => pure value
  | .error fault => throw (.numeral fault)

/-- A helper's answer as a step of a rendering. -/
def calling {α : Type} (result : Except Failure α) : Render α :=
  match result with
  | .ok value => pure value
  | .error failure => throw (.helper failure)

/-- The text of a value as a step of a rendering. -/
def writing (value : Value) : Render (List Char) :=
  match value.toText Value.inserted with
  | .ok text => pure text.toList
  | .error _ => throw .unwritable

/-- First pass: the tag of a known partial that is not being expanded becomes its rendered text. -/
def expandPartials (scope : Scope) (render : List Char → Render (List Char)) (text : List Char) :
    Render (List Char) :=
  fill (fun name written => do
    match scope.partials.get? name with
    | none => return written
    | some body =>
      if name ∈ (← get) then return written
      else within name (render body.toList))
    (cut partialTag? text)

/-- Second pass: a conditional block becomes the rendered text of one branch. -/
def chooseBranches (context : Table Value) (render : List Char → Render (List Char))
    (text : List Char) : Render (List Char) :=
  fill (fun block _ => do
    let value ← reading (lookUp context block.path)
    render (if value.isTrue then block.whenTrue else block.whenFalse))
    (cut conditionalTag? text)

/-- The context of one round of a loop: the names that the loop binds, and above them the entries of an
item that is a record. -/
def roundContext (context : Table Value) (length index : Nat) (item : Value) : Table Value :=
  let bound := context.merge
    [("this", item), ("@index", .int index), ("@first", .bool (index = 0)),
      ("@last", .bool (index + 1 = length)), ("@length", .int length)]
  match item with
  | .record entries => bound.merge entries
  | _ => bound

/-- The rendered rounds of a loop, one after the other. -/
def renderRounds (render : List Char → Table Value → Render (List Char)) (context : Table Value)
    (body : List Char) (length : Nat) : Nat → List Value → Render (List Char)
  | _, [] => return []
  | index, item :: rest => do
    let first ← render body (roundContext context length index item)
    let later ← renderRounds render context body length (index + 1) rest
    return first ++ later

/-- Third pass: a loop over a list becomes its rendered rounds, any other loop nothing. -/
def unrollLoops (context : Table Value) (render : List Char → Table Value → Render (List Char))
    (text : List Char) : Render (List Char) :=
  fill (fun loop _ => do
    match ← reading (lookUp context loop.path) with
    | .list items => renderRounds render context loop.body items.length 0 items
    | _ => return [])
    (cut loopTag? text)

/-- Fourth pass: a variable becomes the inserted form of its value. -/
def insertVariables (context : Table Value) (text : List Char) : Render (List Char) :=
  fill (fun path _ => do
    writing (← reading (lookUp context path)))
    (cut variableTag? text)

/-- Fifth pass: a call of a known helper becomes the inserted form of its answer, if that is true. -/
def callHelpers (scope : Scope) (context : Table Value) (text : List Char) : Render (List Char) :=
  fill (fun call written => do
    match scope.helpers.get? call.name with
    | none => return written
    | some helper =>
      let answer ← calling (helper (← reading (arguments context call.arguments)))
      if answer.isTrue then writing answer else return [])
    (cut helperTag? text)

/-- How the texts inside of a template are rendered. -/
abbrev Inner := Nesting → List Char → Table Value → Render (List Char)

/-- The five passes, given how the texts inside are rendered. -/
def renderWith (scope : Scope) (inner : Inner) (text : List Char) (context : Table Value) :
    Render (List Char) := do
  let text ← expandPartials scope (inner .inclusion · context) text
  let text ← chooseBranches context (inner .branch · context) text
  let text ← unrollLoops context (inner .round) text
  let text ← insertVariables context text
  callHelpers scope context text

/-- Renders a template with so many nesting levels left. On the last level there is room for any text
inside, and none for a text inside of that. -/
def renderAt (scope : Scope) : Nat → List Char → Table Value → Render (List Char)
  | 0 => renderWith scope fun _ _ _ => throw .tooDeep
  | 1 => renderWith scope fun _ => renderAt scope 0
  | levels + 2 => renderWith scope fun nesting =>
    match nesting with
    | .branch => renderAt scope (levels + 1)
    | .inclusion | .round => renderAt scope levels

/-- The levels of nesting that there are. -/
def nestingLimit : Nat := 495

/-- Renders a template from the given state; gives the outcome and the state that is left. -/
def renderFrom (scope : Scope) (active : List String) (template : String) (context : Table Value) :
    Except Fault String × List String :=
  let (outcome, left) := ((renderAt scope nestingLimit template.toList context).run).run active
  (outcome.map String.ofList, left)

end Handbook.Template
