import Handbook.Calendar
import Handbook.Failure
import Handbook.Workspace.Tree

/-!
The environment of a run: the files at hand, the programs that can be called, and the time.
-/

namespace Handbook

/-- What a run finds around it. -/
structure Environment where
  workspace : Workspace
  programs : List String
  now : Calendar.Instant

namespace Environment

def hasProgram (environment : Environment) (name : String) : Bool := environment.programs.contains name

/-- The date of the run as text. It fails at an instant that has no date in universal time, although it
may have one where the clocks differ. -/
def dateText (environment : Environment) : Except Failure String :=
  let date := environment.now.date
  if date.hasName then .ok date.text else .error ⟨"OverflowError", "date value out of range"⟩

end Environment

end Handbook
