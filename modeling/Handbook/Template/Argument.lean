import Handbook.Template.Path

/-!
The arguments of a helper call. Quoted spans are literal; the other tokens are cut at blanks and at
quotes. A token that starts like a path is looked up, a token of decimal digits is a number, and any other
token stands for itself.
-/

namespace Handbook.Template

open Text Unicode

inductive Token where
  | quoted (text : List Char)
  | bare (text : List Char)
  deriving Repr, DecidableEq

/-- Whether the character opens a quoted span. -/
def isQuote (c : Char) : Bool := c = '\'' || c = '"'

/-- The bare token that has been read so far, if there is one. -/
def flush (pending : List Char) : List Token := if pending = [] then [] else [.bare pending]

/-- The tokens of a text, given the part of a token that has been read and the quote it stands in. A span
that is never closed is literal all the same, unless it is empty. -/
def tokensFrom (pending : List Char) : Option Char → List Char → List Token
  | none, [] => flush pending
  | some _, [] => if pending = [] then [] else [.quoted pending]
  | none, c :: rest =>
    if isQuote c then flush pending ++ tokensFrom [] (some c) rest
    else if isBlank c then flush pending ++ tokensFrom [] none rest
    else tokensFrom (pending ++ [c]) none rest
  | some mark, c :: rest =>
    if c = mark then .quoted pending :: tokensFrom [] none rest
    else tokensFrom (pending ++ [c]) (some mark) rest

def tokens (text : List Char) : List Token := tokensFrom [] none text

def isPathToken (text : List Char) : Bool :=
  (text.head?.map fun c => c.isAlpha || c = '@').getD false

def Token.value (context : Table Value) : Token → Except Numeral.Fault Value
  | .quoted text => return .str (String.ofList text)
  | .bare text =>
    if isPathToken text then lookUp context text
    else if text.all isDecimal then return .int (← Numeral.read text)
    else return .str (String.ofList text)

/-- The values of the arguments, read from left to right. -/
def arguments (context : Table Value) (text : List Char) : Except Numeral.Fault (List Value) :=
  (tokens text).mapM (Token.value context)

end Handbook.Template
