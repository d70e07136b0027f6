/-
# Sinks

Records end in sinks. A memory sink keeps them; a line sink writes the lines of those that its
registry admits to a device and counts the ones it could not write; an event sink passes those that
its registry and its category filter admit on to the backend, and has the last word on fatal ones:
it runs its hook, and then stops the process unless it is told not to.

Key definitions: `Formatter`, `lineReport`, `LineSink`, `EventSink`, `Sink`.
-/
import Logbook.Clock
import Logbook.Device
import Logbook.Layout
import Logbook.Registry
import Logbook.Table
import Logbook.Text.Utf8

namespace Logbook

/-- Where a formatter takes the simulated time from. -/
inductive TimeSource where
  | none
  | clock (c : Ref Clock)
  /-- A time that stands still and has no delta cycles. -/
  | fixed (t : Nat)
  deriving DecidableEq

/-- A layout with its time source, and with the registry that says how time is shown; the
process-wide one if none is given. -/
structure Formatter where
  layout : Layout
  time : TimeSource
  registry : Option (Ref Registry)
  deriving DecidableEq

/-- A formatter without a time source. -/
def Formatter.ofLayout (x : Layout) : Formatter := ⟨x, .none, .none⟩

/-- The description of a formatter. -/
def Formatter.describe (f : Formatter) : String := f.layout.describe (f.time ≠ .none)

/-- What a sink that writes lines does with a record, given its registry, its layout and the time:
a record that is not admitted touches nothing, and neither does one whose line cannot be made. -/
def lineReport {δ : Type} (d : Device δ) (g : Registry) (x : Layout) (m : Moment) (r : Record)
    (t : Tally δ) : Except ColumnError (Tally δ) :=
  if g.admits r then
    match x.render m r with
    | .ok line => .ok (t.deliver d (Text.bytes (line ++ "\n")))
    | .error e => .error e
  else .ok t

/-- A sink that writes lines; it follows the process-wide registry if none is given. -/
structure LineSink where
  formatter : Formatter
  registry : Option (Ref Registry)
  /-- The device, and the number of records that could not be written. -/
  tally : Tally Buffer
  deriving DecidableEq

/-- The description of a line sink. -/
def LineSink.describe (s : LineSink) : String :=
  Text.braced "WriterSink"
    [("formatter", s.formatter.describe), ("failures", toString s.tally.failures)] true

/-- What follows a fatal record. -/
inductive FatalAction where
  | stop
  | ignore
  deriving DecidableEq

/-- The word for an action. -/
def FatalAction.word : FatalAction → String
  | .stop => "Abort"
  | .ignore => "Ignore"

/-- What an event sink does for a fatal record before the action. -/
inductive Hook where
  /-- Counts the call. -/
  | count
  /-- Lets the worker of the log file write what is queued, and dismisses it. -/
  | dismissWorker
  deriving DecidableEq

/-- A sink that passes records on as events; it follows the process-wide registry if none is
given. -/
structure EventSink where
  registry : Option (Ref Registry)
  /-- Which categories are passed on. -/
  filter : Option (String → Bool)
  hook : Option Hook
  /-- The number of calls of the hook. -/
  calls : Nat
  action : FatalAction

/-- The description of an event sink that has no registry of its own. -/
def EventSink.describe (s : EventSink) : String :=
  Text.braced "TracingSink"
    [("registry", "None"),
     ("category_filter", Text.flagText s.filter.isSome),
     ("fatal_hook", Text.flagText s.hook.isSome),
     ("fatal_action", s.action.word)] false

/-- Where records end. -/
inductive Sink where
  | memory (records : Array Record)
  | lines (s : LineSink)
  | events (s : EventSink)

instance : Inhabited Sink := ⟨.memory #[]⟩

end Logbook
