/-
# The log facility

The state of a process as far as its log is concerned: the process-wide registry and sink, the sinks
of the open scopes, every shared object, the backend that carries events, the files and the console.
What leaves the facility is noted in a journal in the order of its arrival, which is only ever added
to.

Key definitions: `Writer`, `Backend`, `Arrival`, `Facility`, `Facility.registryOf`,
`Facility.moment`.
-/
import Logbook.Directive
import Logbook.Disk
import Logbook.Event.Report
import Logbook.Forwarder

namespace Logbook

/-- What stands behind a stream. -/
inductive Writer where
  | forwarder (f : Forwarder)
  | buffer (b : Ref Buffer)
  | guest (g : Ref Guest)
  /-- Takes everything and keeps nothing. -/
  | discard
  | console
  deriving DecidableEq

instance : Inhabited Writer := ⟨.discard⟩

/-- The log file of a backend. -/
structure LogFile where
  handle : FileHandle
  /-- Whether a worker does the writing. -/
  background : Bool
  deriving DecidableEq

/-- What shows the events that its directives let through, on the console and in a log file. -/
structure Backend where
  directives : List Directive
  formatter : Formatter
  /-- Whether the console shows colours. -/
  ansi : Bool
  logFile : Option LogFile
  deriving DecidableEq

/-- Who takes events: nobody, a recorder that takes every one, or a backend. -/
inductive Subscriber where
  | nobody
  | recorder
  | backend (b : Backend)
  deriving DecidableEq

/-- Something that left the facility. -/
inductive Arrival where
  /-- A record in a memory sink. -/
  | record (sink : Ref Sink) (r : Record)
  /-- Bytes on the device of a line sink. -/
  | output (sink : Ref Sink) (bs : List UInt8)
  /-- A record that a line sink could not write. -/
  | failure (sink : Ref Sink)
  /-- A call of the hook of an event sink. -/
  | hook (sink : Ref Sink)
  /-- Bytes in a buffer. -/
  | stored (buffer : Ref Buffer) (bs : List UInt8)
  /-- An event at the recorder. -/
  | event (e : Event)
  deriving DecidableEq

/-- The log of a process. -/
structure Facility where
  /-- The process-wide registry. -/
  registry : Registry
  /-- The process-wide sink. -/
  globalSink : Option (Ref Sink)
  /-- The sinks of the open scopes, the innermost first. -/
  scopes : List (Ref Sink)
  registries : Table Registry
  clocks : Table Clock
  sinks : Table Sink
  buffers : Table Buffer
  guests : Table Guest
  streams : Table Writer
  subscriber : Subscriber
  /-- Whether a worker stands ready to write the log file. -/
  worker : Bool
  disk : Disk
  /-- What the console shows. -/
  console : Array UInt8
  /-- The time of day. -/
  wall : String
  /-- The directives that the surroundings of the process give. -/
  surroundings : Option String
  /-- What left the facility, in the order of its arrival. -/
  journal : Array Arrival

namespace Facility

/-- A facility at the start of a process. -/
def start (s : Subscriber) (disk : Disk) (wall : String) (surroundings : Option String) :
    Facility where
  registry := .fresh
  globalSink := none
  scopes := []
  registries := .empty
  clocks := .empty
  sinks := .empty
  buffers := .empty
  guests := .empty
  streams := .empty
  subscriber := s
  worker := false
  disk
  console := #[]
  wall
  surroundings
  journal := #[]

/-- A registry by its reference; the process-wide one without one. -/
def registryOf (x : Facility) : Option (Ref Registry) → Registry
  | some r => x.registries.get r
  | none => x.registry

/-- Changes a registry; the process-wide one without a reference. -/
def updateRegistry (r : Option (Ref Registry)) (f : Registry → Registry) (x : Facility) :
    Facility :=
  match r with
  | some r => { x with registries := x.registries.update r f }
  | none => { x with registry := f x.registry }

/-- What a time source shows. -/
def reading (x : Facility) : TimeSource → Option Reading
  | .none => none
  | .clock c => some ⟨(x.clocks.get c).now.toNat, (x.clocks.get c).deltas⟩
  | .fixed t => some ⟨t, 0⟩

/-- The time at which a formatter makes a line now. -/
def moment (x : Facility) (f : Formatter) : Moment :=
  ⟨x.wall, x.reading f.time, (x.registryOf f.registry).timeDisplay⟩

/-- Notes an arrival. -/
def note (a : Arrival) (x : Facility) : Facility := { x with journal := x.journal.push a }

/-- Shows bytes on the console. -/
def print (bs : List UInt8) (x : Facility) : Facility := { x with console := x.console ++ bs }

/-- Replaces a sink. -/
def putSink (s : Ref Sink) (k : Sink) (x : Facility) : Facility :=
  { x with sinks := x.sinks.put s k }

end Facility

end Logbook
