/-
# Answers to steps

Every step is answered with its result and with the news: what has left the facility since the last
answer, sorted by the names that the objects have now.

Key definitions: `News`, `Scene.newsSince`, `Result`, `Answer`.
-/
import Logbook.Scenario.Scene

namespace Logbook.Scenario

/-- What has left the facility, by the names of the objects it came from. -/
structure News where
  records : Names (List Record)
  outputs : Names (List UInt8)
  stored : Names (List UInt8)
  /-- How many records a line sink could not write, in total. -/
  failures : Names Nat
  /-- How often the hook of an event sink was called, in total. -/
  hooks : Names Nat
  events : List Event

/-- The record of an arrival in a memory sink. -/
def recordIn? (k : Ref Sink) : Arrival → Option Record
  | .record s r => if s = k then some r else none
  | _ => none

/-- The bytes of an arrival on the device of a line sink. -/
def outputOf? (k : Ref Sink) : Arrival → Option (List UInt8)
  | .output s bs => if s = k then some bs else none
  | _ => none

/-- The bytes of an arrival in a buffer. -/
def storedIn? (k : Ref Buffer) : Arrival → Option (List UInt8)
  | .stored b bs => if b = k then some bs else none
  | _ => none

/-- The event of an arrival at the recorder. -/
def event? : Arrival → Option Event
  | .event e => some e
  | _ => none

namespace Scene

/-- The place in the journal that comes next. -/
def mark (s : Scene) : Nat := s.facility.journal.size

/-- The number of failures of a line sink. -/
def failuresOf (s : Scene) (k : Ref Sink) : Nat :=
  match s.facility.sinks.get k with
  | .lines x => x.tally.failures
  | _ => 0

/-- The number of calls of the hook of an event sink. -/
def callsOf (s : Scene) (k : Ref Sink) : Nat :=
  match s.facility.sinks.get k with
  | .events x => x.calls
  | _ => 0

/-- What has arrived since a place in the journal. -/
def newsSince (s : Scene) (mark : Nat) : News :=
  let new := (s.facility.journal.extract mark s.mark).toList
  { records := s.sinks.filterMap fun n =>
      let rs := new.filterMap (recordIn? n.2)
      if rs.isEmpty then none else some (n.1, rs)
    outputs := s.sinks.filterMap fun n =>
      let bs := (new.filterMap (outputOf? n.2)).flatten
      if bs.isEmpty then none else some (n.1, bs)
    stored := s.buffers.filterMap fun n =>
      let bs := (new.filterMap (storedIn? n.2)).flatten
      if bs.isEmpty then none else some (n.1, bs)
    failures := s.sinks.filterMap fun n =>
      if new.contains (.failure n.2) then some (n.1, s.failuresOf n.2) else none
    hooks := s.sinks.filterMap fun n =>
      if new.contains (.hook n.2) then some (n.1, s.callsOf n.2) else none
    events := new.filterMap event? }

end Scene

mutual

/-- What a step found. -/
inductive Result where
  | nothing
  | text (s : String)
  | flag (b : Bool)
  | level (l : Level)
  | levelAndThreshold (l : Level) (v : Verbosity)
  | verbosity (v : Option Verbosity)
  | display (d : TimeDisplay)
  | period (t : Option Nat)
  | clock (c : Clock)
  | evaluated (b : Bool)
  | replaced (b : Bool)
  | draft (message category : String) (v : Verbosity)
  | memory (messages : List String)
  | failures (n : Nat)
  | action (a : FatalAction)
  | records (rs : List Record)
  | content (bs : List UInt8)
  /-- What an action on a forwarder found, and what is pending. -/
  | pending (found : Result) (bs : List UInt8)
  | written (n : Except Fault Nat)
  | finished (e : Except Fault Unit)
  | several (rs : List Result)
  | redirection (active : Bool) (description : String)
  | installed (l : Except StartupError Level)
  /-- The answers to the steps inside a step. -/
  | nested (as : List Answer)
  /-- The message that a handler caught, and the answers to the steps that were completed. -/
  | attempted (raised : Option String) (as : List Answer)

/-- The answer to a step. -/
inductive Answer where
  | done (r : Result) (news : News)
  | raised (message : String) (news : News)

end

end Logbook.Scenario
