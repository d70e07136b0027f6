/-
# Playing scenarios

Steps are played one after the other on a scene. A step that raises a message is not answered and
takes the answers to the steps inside it with it, up to the nearest handler or the scenario itself;
what had arrived by then becomes news of the step that has the handler. When the scenario is over,
what is still open is given up: redirections in the order of their names, then forwarders, then the
writers that were kept.

Key definitions: `Action.run`, `playSteps`, `playStep`, `Ending`, `play`.
-/
import Logbook.Scenario.Answer

namespace Logbook.Scenario

open Scene (onFacility)

/-- The innermost open draft changes, or one further out. -/
def changeDraft (up : Nat) (f : Draft → Draft) (s : Scene) : Scene :=
  { s with drafts := s.drafts.modify up f }

/-- Works on an open draft. -/
def DraftAction.run (up : Nat) (a : DraftAction) : Act Scene Result := do
  match a with
  | .append p => Act.modify (changeDraft up (·.append p.said))
  | .setCategory c => Act.modify (changeDraft up (·.setCategory c))
  | .state | .describe => pure ()
  let s ← Act.read
  match s.drafts[up]? with
  | none => pure .nothing
  | some d =>
    match a with
    | .append _ => pure (.text d.message)
    | .setCategory _ => pure (.text d.currentCategory)
    | .state => pure (.draft d.message d.currentCategory d.verbosity)
    | .describe => pure (.text d.describe)

/-- What an action changes a registry to. -/
def RegistryAction.change (a : RegistryAction) (r : Registry) : Registry :=
  match a with
  | .setLevel l => r.setLevel l
  | .setCategoryLevel c l => r.setCategoryLevel c l
  | .setCategoryVerbosity c v => r.setCategoryVerbosity c v
  | .clearCategory c => (r.clearCategory c).2
  | .clearCategories => r.clearCategories
  | .setCycleBase t => r.setCycleBase t
  | .clearCycleBase => r.clearCycleBase
  | _ => r

/-- What an action finds, given a registry before and after its change. -/
def RegistryAction.find (a : RegistryAction) (before after : Registry) : Result :=
  match a with
  | .setLevel _ => .levelAndThreshold after.level after.verbosity
  | .setCategoryLevel c _ | .setCategoryVerbosity c _ => .verbosity (after.verbosityFor (some c))
  | .clearCategory c => .verbosity (before.clearCategory c).1
  | .clearCategories => .verbosity after.verbosity
  | .verbosityFor c => .verbosity (after.verbosityFor c)
  | .admits r => .flag (after.admits r)
  | .enabled s c v => .flag (after.enabled s c v)
  | .setCycleBase _ | .clearCycleBase => .display after.timeDisplay
  | .cycleBase => .period after.cycleBase

/-- Works on a registry. -/
def RegistryAction.run (id : Option String) (a : RegistryAction) : Act Scene Result := do
  let s ← Act.read
  let r := s.registryRef id
  onFacility (Act.modify (·.updateRegistry r a.change))
  let after ← Act.read
  pure (a.find (s.facility.registryOf r) (after.facility.registryOf r))

/-- What an action changes a clock to. -/
def ClockAction.change (a : ClockAction) (c : Clock) : Clock :=
  match a with
  | .read => c
  | .set t => c.set t
  | .advance t => c.advance t
  | .tick times => c.tickBy times

/-- Works on a clock. -/
def ClockAction.run (id : String) (a : ClockAction) : Act Scene Result := do
  let s ← Act.read
  let c := s.clockRef id
  let s := c.2.updateClock c.1 a.change
  Act.modify fun _ => s
  pure (.clock (s.facility.clocks.get c.1))

/-- Works on a sink. -/
def SinkAction.run (id : String) (a : SinkAction) : Act Scene Result := do
  let s ← Act.read
  match s.sinks.lookup id with
  | none => pure .nothing
  | some k =>
    match a, s.facility.sinks.get k with
    | .state, .memory rs => pure (.memory (rs.toList.map Record.message))
    | .state, .lines x => pure (.failures x.tally.failures)
    | .state, .events x => pure (.action x.action)
    | .describe, .lines x => pure (.text x.describe)
    | .describe, .events x => pure (.text x.describe)
    | .drain, .memory rs =>
      onFacility (Act.modify (·.putSink k (.memory #[])))
      pure (.records rs.toList)
    | .takeDevice, .lines x =>
      Act.modify fun s => { s with sinks := s.sinks.forget id }
      pure (.content x.tally.device.content.toList)
    | _, _ => pure .nothing

/-- Gives a writer up. -/
def giveUpWriter (w : Option Writer) : Act Scene Unit :=
  match w with
  | some w => onFacility (Writer.giveUp w)
  | none => pure ()

/-- Runs an action on a named forwarder, which keeps its name however the action ends. -/
def withForwarder {α : Type} (id : String) (f : Forwarder) (act : Act (Forwarder × Facility) α) :
    Act Scene (α × List UInt8) := fun s =>
  let r := act (f, s.facility)
  (r.1.map fun a => (a, r.2.1.pending),
    { s with facility := r.2.2, forwarders := s.forwarders.bind id r.2.1 })

/-- Works on a forwarder. -/
def ForwarderAction.run (id : String) (a : ForwarderAction) : Act Scene Result := do
  let s ← Act.read
  match s.forwarders.lookup id with
  | none => pure .nothing
  | some f =>
    match a with
    | .write bs =>
      let r ← withForwarder id f (Forwarder.write Facility.outlet bs)
      pure (.pending (.written (.ok r.1)) r.2)
    | .flush =>
      let r ← withForwarder id f (Forwarder.flush Facility.outlet)
      pure (.pending (.flag true) r.2)
    | .describe => pure (.pending (.text f.describe) f.pending)
    | .giveUp =>
      Act.modify fun s => { s with forwarders := s.forwarders.forget id }
      giveUpWriter (some (.forwarder f))
      pure .nothing

/-- Makes or takes a writer. -/
def takeWriter (p : WriterPlan) : Act Scene Writer := fun s =>
  let w := s.takeWriter p
  (.done w.1, w.2)

/-- Keeps a writer under a name, in the place of the one that had it, which is given up. -/
def saveWriter (id : String) (w : Writer) : Act Scene Unit := do
  let s ← Act.read
  Act.modify fun s => { s with saved := s.saved.bind id w }
  giveUpWriter (s.saved.lookup id)

/-- Works on a stream. -/
def StreamAction.run (id : String) (a : StreamAction) : Act Scene Result := do
  let s ← Act.read
  match s.streams.lookup id with
  | none => pure .nothing
  | some r =>
    match a with
    | .write bs => do
      let n ← onFacility (Facility.onStream r (Writer.write bs))
      pure (.written n)
    | .writeAll bs => do
      let e ← onFacility (Facility.onStream r (Writer.writeAll bs))
      pure (.finished e)
    | .flush => do
      let e ← onFacility (Facility.onStream r Writer.flush)
      pure (.finished e)
    | .describe => pure (.text streamDescription)
    | .replaceWriter p save => do
      let w ← takeWriter p
      let old ← onFacility (Facility.replaceWriter r w)
      match save with
      | some id => saveWriter id old
      | none => giveUpWriter (some old)
      pure .nothing

/-- Writes in three ways to a stream that ends afterwards. -/
def useOwnStream (p : WriterPlan) (bs : List UInt8) : Act Scene Result := do
  let w ← takeWriter p
  let s ← Act.read
  let added := s.facility.streams.insert w
  Act.modify fun s => { s with facility := { s.facility with streams := added.2 } }
  let use : Act Facility Result := do
    let n ← Facility.onStream added.1 (Writer.write bs)
    let e ← Facility.onStream added.1 (Writer.writeAll bs)
    let f ← Facility.onStream added.1 Writer.flush
    pure (.several [.written n, .finished e, .finished f])
  onFacility (Act.ensure use fun x => Writer.giveUp (x.streams.get added.1) x)

/-- Redirects a stream; the redirection that had the name is given up afterwards. -/
def startRedirection (id stream : String) (p : ForwarderPlan) : Act Scene Result := do
  let s ← Act.read
  match s.streams.lookup stream with
  | none => pure .nothing
  | some r =>
    let new ← onFacility (Redirection.start r (s.makeForwarder p))
    let old := s.redirections.lookup id
    Act.modify fun s => { s with redirections := s.redirections.bind id new }
    match old with
    | some old => onFacility old.giveUp
    | none => pure ()
    pure (.flag new.isActive)

/-- Runs an action on a named redirection, which keeps its name however the action ends. -/
def withRedirection (id : String) (r : Redirection) (act : Act (Redirection × Facility) Unit) :
    Act Scene Redirection := fun s =>
  let done := act (r, s.facility)
  (done.1.map fun _ => done.2.1,
    { s with facility := done.2.2, redirections := s.redirections.bind id done.2.1 })

/-- Works on a redirection. -/
def RedirectionAction.run (id : String) (a : RedirectionAction) : Act Scene Result := do
  let s ← Act.read
  match s.redirections.lookup id with
  | none => pure .nothing
  | some r =>
    match a with
    | .reset =>
      let r ← withRedirection id r Redirection.reset
      pure (.redirection r.isActive r.describe)
    | .state => pure (.redirection r.isActive r.describe)
    | .giveUp =>
      Act.modify fun s => { s with redirections := s.redirections.forget id }
      onFacility r.giveUp
      pure .nothing

/-- Runs an action on a writer that was kept, which keeps its name however the action ends. -/
def withSaved {α : Type} (id : String) (w : Writer) (act : Act (Writer × Facility) α) :
    Act Scene α := fun s =>
  let r := act (w, s.facility)
  (r.1, { s with facility := r.2.2, saved := s.saved.bind id r.2.1 })

/-- Works on a writer that was kept. -/
def SavedAction.run (id : String) (a : SavedAction) : Act Scene Result := do
  let s ← Act.read
  match s.saved.lookup id with
  | none => pure .nothing
  | some w =>
    match a with
    | .write bs => do
      let e ← withSaved id w (Writer.writeAll bs)
      pure (.finished e)
    | .flush => do
      let e ← withSaved id w Writer.flush
      pure (.finished e)
    | .giveUp =>
      Act.modify fun s => { s with saved := s.saved.forget id }
      giveUpWriter (some w)
      pure .nothing
    | .restore stream =>
      match s.streams.lookup stream with
      | none => pure .nothing
      | some r =>
        Act.modify fun s => { s with saved := s.saved.forget id }
        let displaced ← onFacility (Facility.replaceWriter r w)
        giveUpWriter (some displaced)
        pure .nothing

/-- Sets the facility up. -/
def setUp (settings : Settings) (clock : Option String) : Act Scene Result := do
  let s ← Act.read
  let c : Option (Ref Clock) × Scene :=
    match clock with
    | some id => let c := s.clockRef id; (some c.1, c.2)
    | none => (none, s)
  Act.modify fun _ => c.2
  let r ← onFacility (Facility.install settings c.1)
  match r with
  | .error e => pure (.installed (.error e))
  | .ok () =>
    Act.modify fun s => { s with guarded := true }
    let s ← Act.read
    pure (.installed (.ok s.facility.registry.level))

/-- Lets go of the set-up of the facility, if it is being held on to. -/
def releaseGuard (s : Scene) : Scene :=
  if s.guarded then { s with guarded := false, facility := s.facility.dismissWorker } else s

/-- Runs a step that holds no other steps. -/
def Action.run : Action → Act Scene Result
  | .onDraft up a => a.run up
  | .statement k category message => do
    let s ← Act.read
    let made ← onFacility (k.run s.site category message)
    pure (.evaluated made)
  | .assertion remark value => do
    let s ← Act.read
    match remark with
    | none => onFacility (Logbook.assertion s.site (value = 3) "value == 3" none)
    | some said =>
      let remark := said ++ " was " ++ toString value
      onFacility (Logbook.assertion s.site (5 < value) "value > 5" (some remark))
    pure .nothing
  | .dispatch r => do
    onFacility (Facility.dispatch r)
    pure .nothing
  | .report sink r => do
    let s ← Act.read
    match s.sinks.lookup sink with
    | some k => onFacility (Facility.report k r)
    | none => pure ()
    pure .nothing
  | .carry r => do
    onFacility (Facility.carry (.ofRecord r))
    pure .nothing
  | .setGlobalSink sink => do
    let s ← Act.read
    onFacility (Act.modify fun x => { x with globalSink := s.sinkRef sink })
    pure (.replaced s.facility.globalSink.isSome)
  | .newRegistry id l => do
    Act.modify fun s =>
      let r := s.addRegistry (.ofLevel l)
      { r.2 with registries := r.2.registries.bind id r.1 }
    pure (.level l)
  | .onRegistry id a => a.run id
  | .onClock id a => a.run id
  | .newSink id p => do
    Act.modify fun s =>
      let k := s.makeSink p
      k.2.addSink id k.1
    pure .nothing
  | .onSink id a => a.run id
  | .newForwarder id p => do
    let s ← Act.read
    let old := s.forwarders.lookup id
    Act.modify fun s => { s with forwarders := s.forwarders.bind id (s.makeForwarder p) }
    giveUpWriter (old.map .forwarder)
    pure (.level p.level)
  | .onForwarder id a => a.run id
  | .newStream id p => do
    let w ← takeWriter p
    Act.modify (Scene.addStream id w)
    pure .nothing
  | .onStream id a => a.run id
  | .onOwnStream p bs => useOwnStream p bs
  | .redirect id stream p => startRedirection id stream p
  | .onRedirection id a => a.run id
  | .onSaved id a => a.run id
  | .install settings clock => setUp settings clock
  | .dropGuard => do
    let s ← Act.read
    Act.modify releaseGuard
    pure (.flag s.guarded)

/-- Closes the innermost draft. -/
def closeDraft : Act Scene Unit := do
  let s ← Act.read
  match s.drafts with
  | [] => pure ()
  | d :: rest =>
    Act.modify fun s => { s with drafts := rest }
    onFacility (Facility.close d)

/-- Runs an action in a scope with its own sink. -/
def within {α : Type} (k : Option (Ref Sink)) (body : Act Scene α) : Act Scene α :=
  match k with
  | none => body
  | some k => do
    onFacility (Act.modify (Facility.enterScope k))
    Act.ensure body (onFacility (Act.modify Facility.leaveScope))

/-- Steps that were played: their answers, how far the news of these go in the journal, and the
message that the last one raised, if it did. -/
structure Played where
  answers : List Answer
  mark : Nat
  raised : Option String

/-- The answers to steps of which none raised a message. -/
def Played.unlessRaised (p : Played) : Act Scene Played :=
  match p.raised with
  | some m => Act.raise m
  | none => pure p

mutual

/-- Plays a step: what it found, and how far the news of the steps inside it go. -/
def playStep (mark : Nat) : Step → Act Scene (Result × Nat)
  | .act a => do
    let r ← a.run
    pure (r, mark)
  | .within sink steps => do
    let s ← Act.read
    let p ← within (s.sinks.lookup sink) (do
      let p ← playSteps mark steps
      p.unlessRaised)
    pure (.nested p.answers, p.mark)
  | .draft severity v site sink steps => do
    Act.modify fun s =>
      { s with drafts := Draft.start severity v site (s.sinkRef sink) :: s.drafts }
    let p ← Act.ensure (do
      let p ← playSteps mark steps
      p.unlessRaised) closeDraft
    pure (.nested p.answers, p.mark)
  | .attempt steps => do
    let p ← playSteps mark steps
    pure (.attempted p.raised p.answers, p.mark)
  | .fail message => Act.raise message

/-- Plays steps up to the first that raises a message. -/
def playSteps (mark : Nat) : List Step → Act Scene Played
  | [] => pure ⟨[], mark, none⟩
  | step :: steps => do
    match ← Act.attempt (playStep mark step) with
    | .error m => pure ⟨[], mark, some m⟩
    | .ok (result, reached) =>
      let s ← Act.read
      let rest ← playSteps s.mark steps
      pure { rest with answers := .done result (s.newsSince reached) :: rest.answers }

end

/-- The answers to a whole scenario, and how it ended: with what arrived when what was still open
was given up, with a message that this raised, or with the end of the process. -/
structure Ending where
  answers : List Answer
  news : Outcome News

/-- Runs all of some clean-ups, one after the other, also when one of them raises a message. -/
def ensureAll : List (Act Scene Unit) → Act Scene Unit
  | [] => pure ()
  | a :: as => Act.ensure a (ensureAll as)

/-- Gives up what is still open. -/
def giveUpAll (s : Scene) : Act Scene Unit := do
  Act.modify fun s => { s with redirections := [], forwarders := [], saved := [] }
  ensureAll
    ((s.redirections.sorted.map fun r => onFacility r.2.giveUp) ++
      (s.forwarders.sorted.map fun f => giveUpWriter (some (.forwarder f.2))) ++
      s.saved.sorted.map fun w => giveUpWriter (some w.2))

/-- Ends a scenario. -/
def finish (mark : Nat) (s : Scene) : Ending × Scene :=
  match giveUpAll s s with
  | (.done (), s) => (⟨[], .done (s.newsSince mark)⟩, releaseGuard s)
  | (.raised m, s) => (⟨[], .raised m⟩, releaseGuard s)
  | (.aborted, s) => (⟨[], .aborted⟩, s)

/-- Plays a scenario. A step that raises a message is answered with it, and the next one goes
on. -/
def play (mark : Nat) (s : Scene) : List Step → Ending × Scene
  | [] => finish mark s
  | step :: steps =>
    match playStep mark step s with
    | (.aborted, s) => (⟨[], .aborted⟩, s)
    | (.done (result, reached), s) =>
      let rest := play s.mark s steps
      ({ rest.1 with answers := .done result (s.newsSince reached) :: rest.1.answers }, rest.2)
    | (.raised m, s) =>
      let rest := play s.mark s steps
      ({ rest.1 with answers := .raised m (s.newsSince mark) :: rest.1.answers }, rest.2)

end Logbook.Scenario
