/-
# Records

One report: how bad it is, what part of the model it is about, what it says, how talkative it is
and where it was made. The level that a record is shown with is the severity itself, except that
an informational record shows the finer level its verbosity stands for.

Key definitions: `Site`, `Record`, `Record.level`.
-/
import Logbook.Severity

namespace Logbook

/-- A place in a source text. -/
structure Site where
  file : String
  line : UInt32
  deriving DecidableEq

/-- One report. -/
structure Record where
  severity : Severity
  category : String
  message : String
  verbosity : Verbosity
  site : Site
  deriving DecidableEq

namespace Record

/-- The category of records that were given none. -/
def defaultCategory : String := "SystemC"

/-- The level that a record is shown with. -/
def level (r : Record) : Level :=
  match r.severity with
  | .fatal => .fatal
  | .error => .error
  | .warning => .warning
  | .info => Level.max .info (.ofVerbosity r.verbosity)

end Record

end Logbook
