/-!
Failures of code that is plugged in: a helper or a provider reports what kind of failure it met and in
which words.
-/

namespace Handbook

/-- What plugged-in code reports when it fails. -/
structure Failure where
  kind : String
  text : String
  deriving Repr, DecidableEq

/-- The failure as one line: its kind and its words. -/
def Failure.message (failure : Failure) : String := s!"{failure.kind}: {failure.text}"

end Handbook
