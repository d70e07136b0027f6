/-
# Reporting

How a record finds its sink and what the sink does with it. A record that is given no sink goes to
that of the innermost open scope, else to the process-wide one, else straight on as an event. The
sink of a scope is in force until the scope ends, however it ends.

Key definitions: `Facility.carry`, `Facility.report`, `Facility.dispatch`, `Facility.deliver`,
`Facility.enterScope`, `Facility.leaveScope`, `Facility.dismissWorker`.
-/
import Logbook.Draft
import Logbook.Facility

namespace Logbook.Facility

/-- Writes a line to a log file; one that needs a worker is lost without it. -/
def writeLogFile (b : Backend) (l : LogFile) (bs : List UInt8) (x : Facility) : Facility :=
  if l.background && !x.worker then x
  else
    let further := { l with handle := l.handle.advance bs.length }
    { x with
      disk := x.disk.write bs l.handle
      subscriber := .backend { b with logFile := some further } }

/-- Shows an event on the console and in the log file of a backend. -/
def display (b : Backend) (e : Event) : Act Facility Unit := fun x =>
  let m := x.moment b.formatter
  match e.lineOf b.formatter.layout m b.ansi with
  | .error err => (.raised err.message, x)
  | .ok line =>
    let x := x.print (Text.bytes line)
    match b.logFile with
    | none => (.done (), x)
    | some l =>
      match e.lineOf b.formatter.layout m false with
      | .error err => (.raised err.message, x)
      | .ok line => (.done (), x.writeLogFile b l (Text.bytes line))

/-- Hands an event to whoever takes events. -/
def carry (e : Event) : Act Facility Unit := fun x =>
  match x.subscriber with
  | .nobody => (.done (), x)
  | .recorder => (.done (), x.note (.event e))
  | .backend b => if Directive.carries b.directives e then display b e x else (.done (), x)

/-- Keeps a record in a memory sink. -/
def remember (s : Ref Sink) (records : Array Record) (r : Record) (x : Facility) : Facility :=
  (x.putSink s (.memory (records.push r))).note (.record s r)

/-- A facility in which a line sink has done what it did. -/
def settleLines (s : Ref Sink) (k : LineSink) (t : Tally Buffer) (x : Facility) : Facility :=
  let written := (t.device.content.extract k.tally.device.content.size t.device.content.size).toList
  let x := x.putSink s (.lines { k with tally := t })
  let x := if written.isEmpty then x else x.note (.output s written)
  if t.failures = k.tally.failures then x else x.note (.failure s)

/-- Writes the line of a record to the device of a line sink. -/
def writeLine (s : Ref Sink) (k : LineSink) (r : Record) : Act Facility Unit := fun x =>
  match lineReport Buffer.device (x.registryOf k.registry) k.formatter.layout
      (x.moment k.formatter) r k.tally with
  | .ok t => (.done (), x.settleLines s k t)
  | .error e => (.raised e.message, x)

/-- Whether an event sink passes a record on. -/
def accepts (x : Facility) (k : EventSink) (r : Record) : Bool :=
  (match k.filter with
    | some f => f r.category
    | none => true) && (x.registryOf k.registry).admits r

/-- Lets the worker write what is queued, and dismisses it. -/
def dismissWorker (x : Facility) : Facility := { x with worker := false }

/-- Runs the hook of an event sink. -/
def runHook (s : Ref Sink) (k : EventSink) (x : Facility) : Facility :=
  match k.hook with
  | some .count => (x.putSink s (.events { k with calls := k.calls + 1 })).note (.hook s)
  | some .dismissWorker => x.dismissWorker
  | none => x

/-- Passes a record on as an event, and does what a fatal one asks for. -/
def pass (s : Ref Sink) (k : EventSink) (r : Record) : Act Facility Unit := do
  if ← Act.inspect fun x => x.accepts k r then carry (.ofRecord r)
  if r.severity = .fatal then
    Act.modify (runHook s k)
    if k.action = .stop then Act.abort

/-- Reports a record to a sink. -/
def report (s : Ref Sink) (r : Record) : Act Facility Unit := fun x =>
  match x.sinks.get s with
  | .memory records => (.done (), x.remember s records r)
  | .lines k => writeLine s k r x
  | .events k => pass s k r x

/-- Where a record goes that is given no sink. -/
def route (x : Facility) : Option (Ref Sink) :=
  match x.scopes with
  | s :: _ => some s
  | [] => x.globalSink

/-- Reports a record to the sink in force. -/
def dispatch (r : Record) : Act Facility Unit := fun x =>
  match x.route with
  | some s => report s r x
  | none => carry (.ofRecord r) x

/-- Reports a record to the given sink, or to the one in force. -/
def deliver (s : Option (Ref Sink)) (r : Record) : Act Facility Unit :=
  match s with
  | some s => report s r
  | none => dispatch r

/-- Closes a draft. -/
def close (d : Draft) : Act Facility Unit := deliver d.sink d.record

/-- Opens a scope with its own sink. -/
def enterScope (s : Ref Sink) (x : Facility) : Facility := { x with scopes := s :: x.scopes }

/-- Ends the innermost scope. -/
def leaveScope (x : Facility) : Facility := { x with scopes := x.scopes.drop 1 }

/-- What a forwarder finds in the facility. -/
def outlet : Outlet Facility where
  level f x := (x.registryOf f.registry).level
  report f r := deliver f.sink r

end Logbook.Facility
