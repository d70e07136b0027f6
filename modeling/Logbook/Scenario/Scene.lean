/-
# Scenes

A scene is a facility together with the objects of a scenario by their names: the shared ones as
references, the others themselves. Scenes know how to make what a step asks for.

Key definitions: `Scene`, `Scene.onFacility`, `Scene.makeFormatter`, `Scene.makeSink`,
`Scene.takeWriter`.
-/
import Logbook.Facility.Startup
import Logbook.Scenario.Step

namespace Logbook.Scenario

/-- Objects by their names. -/
abbrev Names (α : Type) : Type := List (String × α)

namespace Names

variable {α : Type}

/-- Gives a name to an object, which takes the place of the one that had it. -/
def bind (id : String) (a : α) (ns : Names α) : Names α :=
  if ns.any fun n => n.1 == id then ns.map fun n => if n.1 == id then (id, a) else n
  else ns ++ [(id, a)]

/-- Forgets a name. -/
def forget (id : String) (ns : Names α) : Names α := ns.filter fun n => n.1 != id

/-- The names in alphabetical order. -/
def sorted (ns : Names α) : Names α := ns.mergeSort fun a b => a.1 ≤ b.1

end Names

/-- A facility and the objects of a scenario. -/
structure Scene where
  facility : Facility
  registries : Names (Ref Registry)
  clocks : Names (Ref Clock)
  sinks : Names (Ref Sink)
  buffers : Names (Ref Buffer)
  streams : Names (Ref Writer)
  forwarders : Names Forwarder
  redirections : Names Redirection
  /-- The writers that were kept when they were replaced. -/
  saved : Names Writer
  /-- The open drafts, the innermost first. -/
  drafts : List Draft
  /-- Whether the set-up of the facility is being held on to. -/
  guarded : Bool
  /-- The place that statements and forwarders give in their records. -/
  site : Site

namespace Scene

/-- A facility without named objects. -/
def ofFacility (x : Facility) (site : Site) : Scene :=
  ⟨x, [], [], [], [], [], [], [], [], [], false, site⟩

/-- Runs an action on the facility. -/
def onFacility {α : Type} (act : Act Facility α) : Act Scene α :=
  Act.focus Scene.facility (fun x s => { s with facility := x }) act

/-- The registry that a name stands for; the process-wide one without a name. -/
def registryRef (s : Scene) (id : Option String) : Option (Ref Registry) :=
  id.bind fun id => s.registries.lookup id

/-- The sink that a name stands for. -/
def sinkRef (s : Scene) (id : Option String) : Option (Ref Sink) :=
  id.bind fun id => s.sinks.lookup id

/-- Adds a registry. -/
def addRegistry (r : Registry) (s : Scene) : Ref Registry × Scene :=
  let added := s.facility.registries.insert r
  (added.1, { s with facility := { s.facility with registries := added.2 } })

/-- Adds a clock. -/
def addClock (c : Clock) (s : Scene) : Ref Clock × Scene :=
  let added := s.facility.clocks.insert c
  (added.1, { s with facility := { s.facility with clocks := added.2 } })

/-- The clock that a name stands for; it is made when the name is first used. -/
def clockRef (id : String) (s : Scene) : Ref Clock × Scene :=
  match s.clocks.lookup id with
  | some c => (c, s)
  | none =>
    let added := s.addClock .start
    (added.1, { added.2 with clocks := added.2.clocks.bind id added.1 })

/-- Changes a clock. -/
def updateClock (c : Ref Clock) (f : Clock → Clock) (s : Scene) : Scene :=
  { s with facility := { s.facility with clocks := s.facility.clocks.update c f } }

/-- A clock that was set to a time and stepped by a number of delta cycles. -/
def steppedClock (t : Nat) (deltas : UInt64) : Clock := { Clock.start.set t with deltas }

/-- The time source that a plan asks for. -/
def makeTimeSource (p : FormatterPlan) (s : Scene) : TimeSource × Scene :=
  match p.clock, p.fixed, p.ownClock with
  | some id, _, _ =>
    let c := s.clockRef id
    (.clock c.1, c.2)
  | none, some t, _ => (.fixed t, s)
  | none, none, some (t, deltas) =>
    let c := s.addClock (steppedClock t deltas)
    (.clock c.1, c.2)
  | none, none, none => (.none, s)

/-- The registry of a formatter that a plan asks for. -/
def makeTimeRegistry (p : FormatterPlan) (s : Scene) : Option (Ref Registry) × Scene :=
  match p.registry, p.ownCycle with
  | some id, _ => (s.registryRef (some id), s)
  | none, some period =>
    let r := s.addRegistry (Registry.fresh.setCycleBase period)
    (some r.1, r.2)
  | none, none => (none, s)

/-- Makes a formatter. -/
def makeFormatter (p : FormatterPlan) (s : Scene) : Formatter × Scene :=
  let time := s.makeTimeSource p
  let registry := time.2.makeTimeRegistry p
  (⟨p.layout, time.1, registry.1⟩, registry.2)

/-- The sink that a plan asks for. -/
def makeSink (p : SinkPlan) (s : Scene) : Sink × Scene :=
  match p with
  | .memory => (.memory #[], s)
  | .lines formatter registry device =>
    let f := s.makeFormatter formatter
    (.lines ⟨f.1, s.registryRef registry, ⟨device, 0⟩⟩, f.2)
  | .events registry beginning hook action =>
    let filter := beginning.map fun b category => b.toList.isPrefixOf category.toList
    (.events ⟨s.registryRef registry, filter, if hook then some .count else none, 0, action⟩, s)

/-- Adds a sink under a name. -/
def addSink (id : String) (k : Sink) (s : Scene) : Scene :=
  let added := s.facility.sinks.insert k
  { s with
    facility := { s.facility with sinks := added.2 }
    sinks := s.sinks.bind id added.1 }

/-- The forwarder that a plan asks for. -/
def makeForwarder (s : Scene) (p : ForwarderPlan) : Forwarder where
  level := p.level
  pending := []
  category := p.category
  registry := s.registryRef p.registry
  sink := s.sinkRef p.sink
  site := s.site

/-- Makes or takes the writer that a plan asks for. -/
def takeWriter (p : WriterPlan) (s : Scene) : Writer × Scene :=
  match p with
  | .buffer id device =>
    let added := s.facility.buffers.insert device
    (.buffer added.1,
      { s with
        facility := { s.facility with buffers := added.2 }
        buffers := s.buffers.bind id added.1 })
  | .forwarder id =>
    match s.forwarders.lookup id with
    | some f => (.forwarder f, { s with forwarders := s.forwarders.forget id })
    | none => (.discard, s)
  | .discard => (.discard, s)
  | .console => (.console, s)

/-- Adds a stream under a name. -/
def addStream (id : String) (w : Writer) (s : Scene) : Scene :=
  let added := s.facility.streams.insert w
  { s with
    facility := { s.facility with streams := added.2 }
    streams := s.streams.bind id added.1 }

end Scene

end Logbook.Scenario
