/-
# Events

The backend of a facility carries events: a target that says where an event comes from, a level on
the backend's own shorter scale, and fields with a name and a value. A record travels as an event
with one field for each of its parts, on a target of its own.

Key definitions: `EventLevel`, `FieldValue`, `Event`, `Record.eventLevel`, `Event.ofRecord`.
-/
import Logbook.Decimal.Binary64
import Logbook.Record
import Logbook.Text.Quoted

namespace Logbook

/-- The levels of events, from the most to the least important. -/
inductive EventLevel where
  | error
  | warn
  | info
  | debug
  | trace
  deriving DecidableEq

namespace EventLevel

/-- Every level, from the most to the least important. -/
def all : List EventLevel := [.error, .warn, .info, .debug, .trace]

/-- The position of a level in the order; more important ones come first. -/
def rank : EventLevel → Nat
  | .error => 1
  | .warn => 2
  | .info => 3
  | .debug => 4
  | .trace => 5

/-- The name of a level. -/
def name : EventLevel → String
  | .error => "ERROR"
  | .warn => "WARN"
  | .info => "INFO"
  | .debug => "DEBUG"
  | .trace => "TRACE"

/-- The level with exactly this name. -/
def ofName? (s : String) : Option EventLevel := all.find? fun l => l.name == s

end EventLevel

/-- The value of a field. -/
inductive FieldValue where
  | text (s : String)
  | count (n : UInt64)
  | integer (n : Int)
  /-- A number with a point, by its bits. -/
  | real (bits : UInt64)
  | flag (b : Bool)
  /-- The text that some object is shown as. -/
  | shown (s : String)
  /-- A text that is shown between quotes. -/
  | quoted (s : String)
  /-- A field that was declared and not given. -/
  | missing
  deriving DecidableEq

/-- The text of a value in a line; a missing one has none. -/
def FieldValue.text? : FieldValue → Option String
  | .text s => some s
  | .count n => some (toString n.toNat)
  | .integer n => some (toString n)
  | .real bits => some (Binary64.ofBits bits).describe
  | .flag b => some (if b then "true" else "false")
  | .shown s => some s
  | .quoted s => some (Text.quoted s)
  | .missing => none

/-- A field of an event. -/
abbrev Field : Type := String × FieldValue

/-- What the backend carries. -/
structure Event where
  /-- Where the event comes from. -/
  target : String
  level : EventLevel
  /-- The fields, in the order they were given. -/
  fields : List Field
  /-- The file of the call site, where it is known apart from the fields. -/
  file : Option String
  /-- The line of the call site, where it is known apart from the fields. -/
  line : Option UInt32
  deriving DecidableEq

/-- The target of records. -/
def Event.reportTarget : String := "simlog::report"

/-- The target of what streams have to say about themselves. -/
def Event.streamTarget : String := "simlog::redirect::stream"

/-- The target of what the set-up has to say. -/
def Event.startupTarget : String := "simlog_sink::init"

/-- The level that a record travels at. -/
def Record.eventLevel (r : Record) : EventLevel :=
  match r.severity with
  | .fatal | .error => .error
  | .warning => .warn
  | .info =>
    if r.verbosity ≤ .medium then .info
    else if r.verbosity ≤ .high then .debug
    else .trace

namespace Event

/-- The event that carries a record. -/
def ofRecord (r : Record) : Event where
  target := reportTarget
  level := r.eventLevel
  fields :=
    [("message", .shown r.message),
     ("category", .text r.category),
     ("severity", .text r.severity.label),
     ("verbosity", .count r.verbosity.value.toUInt64),
     ("file", .text r.site.file),
     ("line", .count r.site.line.toUInt64)]
  file := none
  line := none

/-- A remark at the debug level. -/
def remark (target message : String) (fields : List Field) : Event where
  target
  level := .debug
  fields := ("message", .shown message) :: fields
  file := none
  line := none

end Event

end Logbook
