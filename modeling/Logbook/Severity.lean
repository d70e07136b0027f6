/-
# Severities

The severity says how bad the reported thing is. Informational records are filtered further by
their verbosity, at the call site already; warnings, errors and fatals are always made and leave
the decision to the sink.

Key definitions: `Severity`, `Severity.label`, `Severity.ofLabel?`, `Severity.minimumLevel`,
`Severity.isFiltered`.
-/
import Logbook.Level

namespace Logbook

/-- How bad the reported thing is. -/
inductive Severity where
  | info
  | warning
  | error
  | fatal
  deriving DecidableEq

namespace Severity

/-- Every severity, from the mildest on. -/
def all : List Severity := [.info, .warning, .error, .fatal]

/-- The position of a severity in the order. -/
def rank : Severity → Nat
  | .info => 0
  | .warning => 1
  | .error => 2
  | .fatal => 3

/-- The label in rendered output. -/
def label : Severity → String
  | .info => "INFO"
  | .warning => "WARNING"
  | .error => "ERROR"
  | .fatal => "FATAL"

/-- The severity with exactly this label. -/
def ofLabel? (s : String) : Option Severity := all.find? fun x => x.label == s

/-- The word for a severity in stored records and descriptions of objects. -/
def word : Severity → String
  | .info => "Info"
  | .warning => "Warning"
  | .error => "Error"
  | .fatal => "Fatal"

/-- The severity with exactly this word. -/
def ofWord? (s : String) : Option Severity := all.find? fun x => x.word == s

/-- The least talkative level that still keeps records of a severity. -/
def minimumLevel : Severity → Level
  | .info => .info
  | .warning => .warning
  | .error => .error
  | .fatal => .fatal

/-- Whether a call site asks for the threshold before it makes a record. -/
def isFiltered : Severity → Bool
  | .info => true
  | _ => false

/-- The severities that are worse. -/
def above (s : Severity) : List Severity := all.filter fun x => s.rank < x.rank

end Severity

end Logbook
