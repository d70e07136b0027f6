/-
# The stage of the demo

Where nobody takes events yet and the category column can be made, setting a facility up leaves one that
can make its lines: its sink hands events on, and the backend has the layout of the settings
(`Facility.install_of_fits`). So the demo runs its workload on a stage, from the start of time and with the
registry that its options ask for (`session_of_fits`).

Key definitions: `Facility.equipped`, `Options.registry`, `Exit.ofWorkload`.
Key theorems: `Facility.install_of_fits`, `session_of_install`, `session_of_fits`,
`runOptions_of_session`.
-/
import Logbook.Demo.Program
import Logbook.Proofs.Demo.Cue

namespace Logbook

namespace Facility

variable {s : Settings} {x : Facility} {filter : Option (String → Bool)} {log : Option LogFile} {disk : Disk}
  {ds : List Directive}

theorem carry_of_unheard {e : Event} {b : Backend} (hb : x.subscriber = .backend b)
    (he : Directive.carries b.directives e = false) : carry e x = (.done (), x) := by
  simp only [carry, hb, he]
  rfl

/-- The remarks on the set-up are carried like all events. -/
theorem startupRemarks_of_legible (s : Settings) (hx : x.Legible) :
    ∃ y, startupRemarks s x = (.done (), y) ∧ y.Legible := by
  unfold startupRemarks
  obtain ⟨y, hfirst, hy⟩ := carry_of_legible (.remark Event.startupTarget "logging initialised"
    [("level", .shown s.level.name),
     ("log_file", .shown (Text.someText (s.logFile.map Text.quoted))),
     ("async_file", .flag s.background)]) hx
  rw [Act.bind_of_done _ hfirst]
  split
  · exact carry_of_legible _ hy
  · exact ⟨y, rfl, hy⟩

theorem startupRemarks_keeps (s : Settings) : Act.Keeps bearings (startupRemarks s) :=
  .bind (carry_keeps _) fun _ => .ite (carry_keeps _) (.pure _)

/-- A facility with what a set-up that succeeds has put in place. -/
def equipped (s : Settings) (clock : Option (Ref Clock)) (filter : Option (String → Bool))
    (log : Option LogFile) (disk : Disk) (ds : List Directive) (x : Facility) : Facility :=
  let time := match clock with
    | some c => .clock c
    | none => .none
  withBackend s ⟨ds, ⟨.ofSettings s, time, none⟩, s.colored, log⟩ filter { x with disk }

/-- Where nothing stands in its way, a set-up puts everything in place and remarks on it. -/
theorem install_of_free (clock : Option (Ref Clock)) (hfilter : compileFilter s = .ok filter)
    (hlog : createLogFile s x.disk = .ok (log, disk))
    (hlist : Directive.list (x.directivesFor s.level) = .ok ds) (hfree : x.subscriber = .nobody) :
    install s clock x = Act.map .ok (startupRemarks s) (x.equipped s clock filter log disk ds) := by
  have hsame : Directive.list (directivesFor { x with disk } s.level) = .ok ds := hlist
  simp only [install, hfilter, hlog, hsame]
  split
  · rfl
  · next hbusy => exact absurd hfree hbusy

/-- What was set up with a column that can be made is legible. -/
theorem equipped_legible (clock : Option (Ref Clock)) (hscopes : x.scopes = [])
    (hfits : (Layout.ofSettings s).Fits) : (x.equipped s clock filter log disk ds).Legible := by
  refine ⟨hfits, fun t ht => ?_⟩
  have hroute : (x.equipped s clock filter log disk ds).route =
      some (x.sinks.insert (.events ⟨none, filter, some .dismissWorker, 0, .stop⟩)).1 := by
    simp only [route, equipped, withBackend, hscopes]
  obtain rfl := Option.some.inj (hroute.symm.trans ht)
  simp only [equipped, withBackend, Table.get_insert, Sink.Legible]

/-- A set-up with a column that can be made succeeds where nothing stands in its way, and then every line
can be made. -/
theorem install_of_fits (clock : Option (Ref Clock)) (hfilter : compileFilter s = .ok filter)
    (hlog : createLogFile s x.disk = .ok (log, disk))
    (hlist : Directive.list (x.directivesFor s.level) = .ok ds) (hfree : x.subscriber = .nobody)
    (hscopes : x.scopes = []) (hfits : (Layout.ofSettings s).Fits) :
    ∃ y, install s clock x = (.done (.ok ()), y) ∧ y.Legible ∧
      y.registry = x.registry.setLevel s.level ∧ y.clocks = x.clocks ∧ y.streams = x.streams := by
  let z := x.equipped s clock filter log disk ds
  obtain ⟨y, hremarks, hy⟩ := startupRemarks_of_legible s (equipped_legible clock hscopes hfits : z.Legible)
  have hkeep := startupRemarks_keeps s z
  rw [hremarks] at hkeep
  have hinstall : install s clock x = (.done (.ok ()), y) :=
    (install_of_free clock hfilter hlog hlist hfree).trans (Act.map_of_done _ hremarks)
  exact ⟨y, hinstall, hy, congrArg Bearings.registry hkeep, congrArg Bearings.clocks hkeep,
    congrArg Bearings.streams hkeep⟩

end Facility

namespace Demo

/-- The registry that the demo runs its workload with. -/
def Options.registry (o : Options) (x : Facility) : Registry :=
  (configure o { x with registry := x.registry.setLevel o.settings.level }).registry

/-- A facility with the clock and the stream of the demo. -/
def furnished (x : Facility) : Facility :=
  { x with clocks := (x.clocks.insert .start).2, streams := (x.streams.insert .console).2 }

/-- Where setting the facility up succeeds, the demo gives categories their levels, runs its workload and
dismisses the worker. -/
theorem session_of_install {o : Options} {x y : Facility}
    (hinstall : Facility.install o.settings (some (x.clocks.insert .start).1) (furnished x) =
      (.done (.ok ()), y)) :
    session o x =
      Act.ensure (simulate (x.clocks.insert .start).1 (x.streams.insert .console).1 o.cycles >>= fun _ =>
        pure (.ok ())) (Act.modify Facility.dismissWorker) (configure o y) := by
  show (Facility.install o.settings (some (x.clocks.insert .start).1) >>= _) (furnished x) = _
  rw [Act.bind_of_done _ hinstall]
  rfl

/-- The ending of the demo, told by how its workload ends. -/
def Exit.ofWorkload : Outcome Unit → Exit
  | .done () => .simulated
  | .raised m => .raised m
  | .aborted => .aborted

theorem runOptions_of_session {o : Options} {c : Ref Clock} {s : Ref Writer} {x y : Facility}
    (h : session o x =
      Act.ensure (simulate c s o.cycles >>= fun _ => pure (.ok ())) (Act.modify Facility.dismissWorker) y) :
    (runOptions o x).ending = .ofWorkload (simulate c s o.cycles y).1 := by
  simp only [runOptions, h, Act.ensure_run, Act.bind_run]
  rcases simulate c s o.cycles y with ⟨_ | _ | _, z⟩ <;> rfl

/-- Where nothing stands in its way, the demo runs its workload on a stage, from the start of time. -/
theorem session_of_fits {o : Options} {x : Facility} {filter : Option (String → Bool)}
    {log : Option LogFile} {disk : Disk} {ds : List Directive}
    (hfilter : Facility.compileFilter o.settings = .ok filter)
    (hlog : Facility.createLogFile o.settings x.disk = .ok (log, disk))
    (hlist : Directive.list (x.directivesFor o.settings.level) = .ok ds) (hfree : x.subscriber = .nobody)
    (hscopes : x.scopes = []) (hfits : (Layout.ofSettings o.settings).Fits) :
    ∃ c s y, Stage c s y ∧ y.registry = o.registry x ∧ y.clocks.get c = .start ∧
      session o x =
        Act.ensure (simulate c s o.cycles >>= fun _ => pure (.ok ()))
          (Act.modify Facility.dismissWorker) y := by
  obtain ⟨y, hinstall, hlegible, hregistry, hclocks, hstreams⟩ :=
    Facility.install_of_fits (x := furnished x) (some (x.clocks.insert .start).1) hfilter hlog hlist hfree
      hscopes hfits
  have hclock : (x.clocks.insert .start).1.index < y.clocks.items.size := by
    rw [hclocks]
    simp [furnished, Table.insert]
  have hstream : (x.streams.insert .console).1.index < y.streams.items.size := by
    rw [hstreams]
    simp [furnished, Table.insert]
  have hconfigured : (configure o y).registry = o.registry x := by
    simp only [configure, Options.registry, hregistry, furnished]
  have hstart : y.clocks.get (x.clocks.insert .start).1 = .start := by
    rw [hclocks]
    exact Table.get_insert _ _
  exact ⟨_, _, configure o y, ⟨hclock, hstream, hlegible⟩, hconfigured, hstart, session_of_install hinstall⟩

end Demo

end Logbook
