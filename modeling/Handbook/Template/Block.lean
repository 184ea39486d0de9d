import Handbook.Template.Tag

/-!
Conditional blocks. A block ends at the closing tag that balances its opening; the first `{{else}}` that
belongs to the block itself parts it into two branches. Main statement of this module: matching is
balanced matching, counted over the marks of the text.
-/

namespace Handbook.Template

/-- Where the branches of a block end, counted from the start of the text after the opening tag. -/
structure BlockEnd where
  elseAt : Option Nat
  endAt : Nat
  deriving Repr, DecidableEq

/-- The end of the innermost open block. `depth` more blocks are open inside the one that is looked for,
`elseAt` is the place of its first `{{else}}`, and `position` is where the text starts. -/
def blockEnd? (depth : Nat) (elseAt : Option Nat) (position : Nat) : List Char → Option BlockEnd
  | [] => none
  | c :: rest =>
    if (after? ifMark (c :: rest)).isSome then
      blockEnd? (depth + 1) elseAt (position + 1) rest
    else if (after? elseMark (c :: rest)).isSome then
      blockEnd? depth (if depth = 0 then elseAt.or (some position) else elseAt) (position + 1) rest
    else if (after? endIfMark (c :: rest)).isSome then
      match depth with
      | 0 => some ⟨elseAt, position⟩
      | outer + 1 => blockEnd? outer elseAt (position + 1) rest
    else blockEnd? depth elseAt (position + 1) rest

/-- A conditional block: the path it asks for and its two branches. -/
structure Conditional where
  path : List Char
  whenTrue : List Char
  whenFalse : List Char

/-- `{{#if path}} whenTrue {{else}} whenFalse {{/if}}`. An opening that is never closed is no block; one
inside it ends at the same place and is not closed either. -/
def conditionalTag? : Recogniser Conditional := fun text => do
  let opened ← opening? ifMark text
  let found ← blockEnd? 0 none 0 opened.inside
  let within := opened.inside.take found.endAt
  let size := opened.size + found.endAt + endIfMark.length
  match found.elseAt with
  | none => return (⟨opened.path, within, []⟩, size)
  | some elseAt =>
    return (⟨opened.path, within.take elseAt, within.drop (elseAt + elseMark.length)⟩, size)

end Handbook.Template
