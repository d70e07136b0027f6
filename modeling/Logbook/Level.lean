/-
# Log levels

The eight levels in order, from nothing at all to everything, and their two mappings: a level
stands for a threshold on the verbosity scale, and a verbosity stands for the most talkative level
whose threshold it reaches. Warning, error and fatal share one threshold, since below info the
scale no longer tells them apart and the severity takes over.

Key definitions: `Level`, `Level.code`, `Level.ofCode?`, `Level.name`, `Level.ofName?`,
`Level.verbosity`, `Level.ofVerbosity`.
-/
import Logbook.Verbosity

namespace Logbook

/-- A log level; a later one is more talkative. -/
inductive Level where
  | off
  | fatal
  | error
  | warning
  | info
  | debug
  | trace
  | traceAll
  deriving DecidableEq

namespace Level

/-- The level of a facility that nobody has configured. -/
instance : Inhabited Level := ⟨.warning⟩

/-- Every level, in order. -/
def all : List Level := [.off, .fatal, .error, .warning, .info, .debug, .trace, .traceAll]

/-- The most talkative level. -/
def finest : Level := .traceAll

/-- The position of a level in the order. -/
def code : Level → UInt8
  | .off => 0
  | .fatal => 1
  | .error => 2
  | .warning => 3
  | .info => 4
  | .debug => 5
  | .trace => 6
  | .traceAll => 7

/-- The level at a position, if there is one. -/
def ofCode? (n : UInt8) : Option Level := all[n.toNat]?

instance : LE Level := ⟨fun a b => a.code ≤ b.code⟩
instance : LT Level := ⟨fun a b => a.code < b.code⟩

instance (a b : Level) : Decidable (a ≤ b) := inferInstanceAs (Decidable (a.code ≤ b.code))
instance (a b : Level) : Decidable (a < b) := inferInstanceAs (Decidable (a.code < b.code))

/-- The more talkative of two levels. -/
def max (a b : Level) : Level := if a ≤ b then b else a

/-- The less talkative of two levels. -/
def min (a b : Level) : Level := if a ≤ b then a else b

/-- The fixed name of a level. -/
def name : Level → String
  | .off => "NONE"
  | .fatal => "FATAL"
  | .error => "ERROR"
  | .warning => "WARNING"
  | .info => "INFO"
  | .debug => "DEBUG"
  | .trace => "TRACE"
  | .traceAll => "TRACEALL"

/-- The level with exactly this name; letter case matters. -/
def ofName? (s : String) : Option Level := all.find? fun l => l.name == s

/-- The word for a level in descriptions of objects. -/
def word : Level → String
  | .off => "None"
  | .fatal => "Fatal"
  | .error => "Error"
  | .warning => "Warning"
  | .info => "Info"
  | .debug => "Debug"
  | .trace => "Trace"
  | .traceAll => "TraceAll"

/-- The threshold that a level stands for. -/
def verbosity : Level → Verbosity
  | .off => .silent
  | .fatal | .error | .warning => .low
  | .info => .medium
  | .debug => .high
  | .trace => .full
  | .traceAll => .debug

/-- The most talkative level whose threshold a verbosity reaches, where everything between
nothing and info counts as warning. -/
def ofVerbosity (v : Verbosity) : Level :=
  if v = .silent then .off
  else if .debug ≤ v then .traceAll
  else if .full ≤ v then .trace
  else if .high ≤ v then .debug
  else if .medium ≤ v then .info
  else .warning

@[simp] theorem ofCode?_code (l : Level) : ofCode? l.code = some l := by cases l <;> rfl

end Level

end Logbook
