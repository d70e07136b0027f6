/-
# How far the workload gets

The counter of the processor is a word of 32 bits that starts half way, so after 2^29 cycles a fetch
cannot be put in words any more. Whether that matters is decided where the fetch is reported: while the
registry shows no fetches, the workload has all the cycles that it is asked for; while it does, it stops
with a message at the first fetch that it has no words for, and leaves that fetch behind as a record that
says nothing (`simulate_ends`). The clock counts in a word of 64 bits and stays at the last time that it
can show, so it never goes back.

Key definitions: `reached`, `performed`, `ending`.
Key theorems: `simulateFrom_add`, `simulateCycle_unreportable`, `now_turned_mono`, `simulate_ends`,
`run_stops_early`.
-/
import Logbook.Proofs.Demo.Script
import Logbook.Proofs.Demo.Session

namespace Logbook.Demo

variable {c : Ref Clock} {s : Ref Writer} {k : Statement} {category : String} {x y : Facility}

/-! ### Clocks do not go back -/

theorem now_turn_le (q : Cue) (k : Clock) : k.now ≤ (q.turn k).now := by
  cases q with
  | tell r => exact UInt64.le_refl _
  | remark e => exact UInt64.le_refl _
  | tick => exact UInt64.le_refl _
  | advance step =>
    have hlast := k.now_le_lastTime
    rw [UInt64.le_iff_toNat_le, Cue.turn, Clock.now_advance]
    omega

theorem now_turned_le : ∀ (qs : List Cue) (k : Clock), k.now ≤ (turned qs k).now
  | [], _ => UInt64.le_refl _
  | q :: qs, k => UInt64.le_trans (now_turn_le q k) (now_turned_le qs (q.turn k))

/-- Along cues that are played, time never goes back. -/
theorem now_turned_mono {p q : List Cue} (h : p <+: q) (k : Clock) : (turned p k).now ≤ (turned q k).now := by
  obtain ⟨rest, rfl⟩ := h
  rw [turned_append]
  exact now_turned_le rest _

/-- Several cycles take ten nanoseconds each, as far as the clock can show. -/
theorem now_turned_cycles (r : Registry) : ∀ (n cycle : Nat) (k : Clock),
    (turned (cyclesCues r cycle n) k).now.toNat = min (k.now.toNat + 10 * n) Clock.lastTime
  | 0, _, k => (Nat.min_eq_left k.now_le_lastTime).symm
  | n + 1, cycle, k => by
    rw [cyclesCues_succ, turned_append, (stamped_cycleCues r cycle k).2, now_turned_cycles r n,
      now_advance_cyclePeriod]
    omega

/-! ### A fetch without words -/

/-- A statement that is enabled and cannot put its message together raises what went wrong, after its
record has been dispatched without a message. -/
theorem say_of_error {m : String} (h : k.isEnabled (some category) x = true)
    (hdispatch : Facility.dispatch (entry k category "") x = (.done (), y)) :
    say k category (.error m) x = (.raised m, y) := by
  have hclose : Facility.close (k.draft site (some category)) x = (.done (), y) := by
    rw [← hdispatch]
    rfl
  simp only [say, Statement.runWith, Act.bind_run, Act.inspect, h, if_true, Act.ensure_run, Act.raise, hclose,
    Outcome.afterCleanup]

/-- A cycle whose fetch is to be reported and cannot be stops at it. -/
theorem simulateCycle_unreportable (h : Stage c s x) (hshows : ShowsFetches x.registry) {cycle : Nat}
    {m : String} (hfetch : fetchMessage cycle = .error m) :
    ∃ y, Act.each (Cue.play c) [.tell (entry .debug "top.cpu" "")] x = (.done (), y) ∧
      simulateCycle c s cycle x = (.raised m, y) := by
  have hmild : (Cue.tell (entry .debug "top.cpu" "")).Mild := by
    simp [Cue.Mild, Cue.record?, entry, Statement.severity]
  have henabled : Statement.debug.isEnabled (some "top.cpu") x = true :=
    (Statement.isEnabled_iff_of_info rfl _ x).mpr hshows
  obtain ⟨y, hplay, -⟩ := h.play hmild
  have hsay := say_of_error (m := m) henabled hplay
  refine ⟨y, by rw [Act.each_singleton, hplay], ?_⟩
  rw [simulateCycle, hfetch]
  exact Act.bind_of_raised _ hsay

/-- Cycles can be had in two parts. -/
theorem simulateFrom_add (c : Ref Clock) (s : Ref Writer) (n : Nat) : ∀ (m cycle : Nat) (x : Facility),
    simulateFrom c s cycle (m + n) x =
      (simulateFrom c s cycle m >>= fun _ => simulateFrom c s (cycle + m) n) x
  | 0, cycle, x => by
    rw [Nat.zero_add]
    rfl
  | m + 1, cycle, x => by
    rw [Nat.add_right_comm, simulateFrom, simulateFrom, Act.bind_run, Act.bind_run, Act.bind_run]
    rcases simulateCycle c s cycle x with ⟨_ | _ | _, y⟩
    · simp only [simulateFrom_add c s n m (cycle + 1) y, Act.bind_run]
      rw [Nat.add_right_comm, Nat.add_assoc]
    · rfl
    · rfl

/-! ### The whole run -/

/-- How many whole cycles the workload has. -/
def reached (r : Registry) (cycles : Nat) : Nat := if Reportable r cycles then cycles else fetchable

/-- The cues that are played. -/
def performed (r : Registry) (cycles : Nat) : List Cue :=
  (opening r cycles).map .tell ++ (cyclesCues r 0 (reached r cycles) ++
    if Reportable r cycles then (closing cycles).map .tell else [.tell (entry .debug "top.cpu" "")])

/-- How the workload ends. -/
def ending (r : Registry) (cycles : Nat) : Outcome Unit :=
  if Reportable r cycles then .done () else .raised "attempt to add with overflow"

theorem mild_performed (r : Registry) (cycles : Nat) : ∀ q ∈ performed r cycles, q.Mild := by
  refine List.forall_mem_append.mpr ⟨mild_opening r cycles,
    List.forall_mem_append.mpr ⟨mild_cyclesCues r 0 _, ?_⟩⟩
  split
  · exact mild_closing cycles
  · simp [Cue.Mild, Cue.record?, entry, Statement.severity]

theorem turned_performed (r : Registry) (cycles : Nat) (k : Clock) :
    (turned (performed r cycles) k).now.toNat = min (k.now.toNat + 10 * reached r cycles) Clock.lastTime := by
  have hlast (k : Clock) : turned (if Reportable r cycles then (closing cycles).map .tell
      else [.tell (entry .debug "top.cpu" "")]) k = k := by
    split
    · exact (stamped_tells (closing cycles) k).2
    · rfl
  rw [performed, turned_append, turned_append, (stamped_tells (opening r cycles) k).2, hlast, now_turned_cycles]

/-- With all its fetches to be reported, the workload stops at the first one that cannot be. -/
theorem simulate_unreportable (h : Stage c s x) {cycles : UInt32}
    (hnot : ¬ Reportable x.registry cycles.toNat) :
    ∃ y, Act.each (Cue.play c) (performed x.registry cycles.toNat) x = (.done (), y) ∧
      simulate c s cycles x = (.raised "attempt to add with overflow", y) := by
  have hlt : fetchable < cycles.toNat := Nat.lt_of_not_le fun hle => hnot (.inl hle)
  have hshows : ShowsFetches x.registry := Decidable.of_not_not fun hs => hnot (.inr hs)
  obtain ⟨n, hn⟩ : ∃ n, cycles.toNat = fetchable + (n + 1) := ⟨cycles.toNat - fetchable - 1, by omega⟩
  obtain ⟨y, hopen, hy⟩ := h.each_play _ (mild_opening x.registry cycles.toNat)
  obtain ⟨z, hcycles, hz⟩ := hy.stage.each_play _ (mild_cyclesCues x.registry 0 fetchable)
  have hregistry : z.registry = x.registry := hz.registry.trans hy.registry
  have hfetch : fetchMessage fetchable = .error "attempt to add with overflow" := rfl
  obtain ⟨w, hempty, hstop⟩ := simulateCycle_unreportable hz.stage (hregistry ▸ hshows) hfetch
  refine ⟨w, ?_, ?_⟩
  · rw [performed, reached, if_neg hnot, if_neg hnot, Act.each_append, Act.bind_of_done _ hopen,
      Act.each_append, Act.bind_of_done _ hcycles, hempty]
  · have hfirst : simulateFrom c s 0 fetchable y = (.done (), z) := by
      have hperforms := simulateFrom_performs fetchable 0 hy.stage (.inl (Nat.le_of_eq (Nat.zero_add _)))
      rw [Performs, hy.registry, hcycles] at hperforms
      exact hperforms
    have hcut : simulateFrom c s 0 cycles.toNat y = (.raised "attempt to add with overflow", w) := by
      rw [hn, simulateFrom_add, Act.bind_of_done _ hfirst, Nat.zero_add, simulateFrom]
      exact Act.bind_of_raised _ hstop
    rw [simulate, Act.bind_of_done _ ((opening_performs cycles.toNat).trans hopen)]
    exact Act.bind_of_raised _ hcut

/-- The workload plays its cues and ends as it is to end. -/
theorem simulate_performed (h : Stage c s x) (cycles : UInt32) :
    ∃ y, simulate c s cycles x = (ending x.registry cycles.toNat, y) ∧
      Act.each (Cue.play c) (performed x.registry cycles.toNat) x = (.done (), y) := by
  by_cases hall : Reportable x.registry cycles.toNat
  · have hperformed : performed x.registry cycles.toNat = cues x.registry cycles.toNat := by
      rw [performed, reached, if_pos hall, if_pos hall, cues]
    obtain ⟨y, hplay, -⟩ := h.each_play _ (mild_cues x.registry cycles.toNat)
    refine ⟨y, ?_, hperformed ▸ hplay⟩
    rw [simulate_performs h hall, hplay, ending, if_pos hall]
  · obtain ⟨y, hplay, hstop⟩ := simulate_unreportable h hall
    exact ⟨y, by rw [hstop, ending, if_neg hall], hplay⟩

/-- The demo says that it has simulated its cycles, unless a fetch is to be reported and cannot be. -/
theorem runOptions_ending {o : Options} {filter : Option (String → Bool)} {log : Option LogFile}
    {disk : Disk} {ds : List Directive}
    (hfilter : Facility.compileFilter o.settings = .ok filter)
    (hlog : Facility.createLogFile o.settings x.disk = .ok (log, disk))
    (hlist : Directive.list (x.directivesFor o.settings.level) = .ok ds) (hfree : x.subscriber = .nobody)
    (hscopes : x.scopes = []) (hfits : (Layout.ofSettings o.settings).Fits) :
    (runOptions o x).ending =
      if Reportable (o.registry x) o.cycles.toNat then .simulated
      else .raised "attempt to add with overflow" := by
  obtain ⟨c, s, y, hy, hregistry, -, hsession⟩ :=
    session_of_fits hfilter hlog hlist hfree hscopes hfits
  obtain ⟨z, hrun, -⟩ := simulate_performed hy o.cycles
  rw [runOptions_of_session hsession, hrun, hregistry, ending]
  split <;> rfl

/-- **The workload stops at the first fetch that it has no words for.** Let the workload run for any number
of cycles that its argument can name, in a facility with any registry where the sink in force and the
backend can make their lines. If there are at most 2^29 cycles, or the registry does not show the fetches
of the processor, all cycles are had and the workload returns; otherwise 2^29 cycles are, and then it
raises that an addition overflowed, after the record of the fetch has been dispatched without a message.
In either case time never goes back on the way, and moves on by ten nanoseconds for each whole cycle, as
far as the clock can show. -/
theorem simulate_ends (c : Ref Clock) (s : Ref Writer) (cycles : UInt32) (x : Facility)
    (hx : Stage c s x) :
    ∃ y, simulate c s cycles x = (ending x.registry cycles.toNat, y) ∧
      Act.each (Cue.play c) (performed x.registry cycles.toNat) x = (.done (), y) ∧
      (∀ p q, p <+: q → q <+: performed x.registry cycles.toNat →
        ((Act.each (Cue.play c) p x).2.clocks.get c).now ≤
          ((Act.each (Cue.play c) q x).2.clocks.get c).now) ∧
      (y.clocks.get c).now.toNat =
        min ((x.clocks.get c).now.toNat + 10 * reached x.registry cycles.toNat) Clock.lastTime := by
  have hmild := mild_performed x.registry cycles.toNat
  have hclock {p : List Cue} (hp : p <+: performed x.registry cycles.toNat) :
      (Act.each (Cue.play c) p x).2.clocks.get c = turned p (x.clocks.get c) := by
    obtain ⟨y, hplay, hy⟩ := hx.each_play p fun q hq => hmild q (hp.subset hq)
    rw [hplay, hy.clock]
  obtain ⟨y, hending, hplay⟩ := simulate_performed hx cycles
  refine ⟨y, hending, hplay, fun p q hpq hq => ?_, ?_⟩
  · rw [hclock (hpq.trans hq), hclock hq]
    exact now_turned_mono hpq _
  · have hy := hclock List.prefix_rfl
    rw [hplay] at hy
    rw [hy, turned_performed]

/-- As many cycles as can be asked for, at level debug and at level info. -/
theorem simulate_ends_after_many_cycles :
    let x (l : Level) : Facility := { Facility.start .recorder ⟨[]⟩ "" none with
      registry := .ofLevel l
      clocks := ⟨#[.start]⟩
      streams := ⟨#[.console]⟩ }
    Stage ⟨0⟩ ⟨0⟩ (x .debug) ∧ Stage ⟨0⟩ ⟨0⟩ (x .info) ∧
      (∃ y, simulate ⟨0⟩ ⟨0⟩ 4294967295 (x .debug) = (.raised "attempt to add with overflow", y) ∧
        (y.clocks.get ⟨0⟩).now.toNat = 5368709120) ∧
      ∃ y, simulate ⟨0⟩ ⟨0⟩ 4294967295 (x .info) = (.done (), y) ∧
        (y.clocks.get ⟨0⟩).now.toNat = 42949672950 := by
  intro x
  have hdebug : Stage ⟨0⟩ ⟨0⟩ (x .debug) := by decide
  have hinfo : Stage ⟨0⟩ ⟨0⟩ (x .info) := by decide
  have hstopped : ending (x .debug).registry (UInt32.toNat 4294967295) =
      .raised "attempt to add with overflow" := by decide +kernel
  have hall : ending (x .info).registry (UInt32.toNat 4294967295) = .done () := by decide +kernel
  have hsome : min (((x .debug).clocks.get ⟨0⟩).now.toNat +
      10 * reached (x .debug).registry (UInt32.toNat 4294967295)) Clock.lastTime = 5368709120 := by
    decide +kernel
  have hmost : min (((x .info).clocks.get ⟨0⟩).now.toNat +
      10 * reached (x .info).registry (UInt32.toNat 4294967295)) Clock.lastTime = 42949672950 := by
    decide +kernel
  obtain ⟨y, hstop, -, -, hnow⟩ := simulate_ends ⟨0⟩ ⟨0⟩ 4294967295 (x .debug) hdebug
  obtain ⟨z, hdone, -, -, hlast⟩ := simulate_ends ⟨0⟩ ⟨0⟩ 4294967295 (x .info) hinfo
  rw [hstopped] at hstop
  rw [hall] at hdone
  exact ⟨hdebug, hinfo, ⟨y, hstop, hnow.trans hsome⟩, ⟨z, hdone, hlast.trans hmost⟩⟩

/-- The demo runs into a fetch without words with one cycle more than there are words for, at level debug,
and, in a column that cannot be made, into its own warning. -/
theorem run_stops_early :
    let x := Facility.start .nobody ⟨[]⟩ "" none
    (run ["--level", "debug", "--cycles", "536870913"] x).ending =
        .raised "attempt to add with overflow" ∧
      (run ["--category-width", "65536", "--cycles", "3", "--no-color"] x).ending =
        .raised "Formatting argument out of range" := by
  intro x
  constructor
  · let o : Options := { Options.standard with level := .debug, cycles := 536870913 }
    have hread : Request.ofArguments ["--level", "debug", "--cycles", "536870913"] = .run o := rfl
    have hlist : Directive.list (x.directivesFor o.settings.level) =
        .ok [⟨none, none, none, some .debug⟩, ⟨some Event.reportTarget, none, none, some .trace⟩] := by
      have hdirectives : x.directivesFor o.settings.level = "debug,simlog::report=trace" := rfl
      rw [hdirectives]
      rfl
    have hnot : ¬ Reportable (o.registry x) o.cycles.toNat := by decide +kernel
    rw [run, hread]
    show (runOptions o x).ending = _
    rw [runOptions_ending rfl rfl hlist rfl rfl (by decide), if_neg hnot]
  · let o : Options := { Options.standard with categoryWidth := 65536, cycles := 3, noColor := true }
    have hread : Request.ofArguments ["--category-width", "65536", "--cycles", "3", "--no-color"] = .run o := rfl
    let ds : List Directive :=
      [⟨none, none, none, some .warn⟩, ⟨some Event.reportTarget, none, none, some .trace⟩]
    have hlist : Directive.list ((furnished x).directivesFor o.settings.level) = .ok ds := by
      have hdirectives : (furnished x).directivesFor o.settings.level = "warn,simlog::report=trace" := rfl
      rw [hdirectives]
      rfl
    let y := (furnished x).equipped o.settings (some ⟨0⟩) none none x.disk ds
    have hremarks : Facility.startupRemarks o.settings y = (.done (), y) := by
      rw [Facility.startupRemarks, Act.bind_of_done _ (Facility.carry_of_unheard rfl (by decide +kernel))]
      rfl
    have hinstall : Facility.install o.settings (some ⟨0⟩) (furnished x) = (.done (.ok ()), y) :=
      (Facility.install_of_free (some ⟨0⟩) rfl rfl hlist rfl).trans (Act.map_of_done _ hremarks)
    have hstops : (simulate ⟨0⟩ ⟨0⟩ 3 (configure o y)).1 = .raised "Formatting argument out of range" := by
      decide +kernel
    rw [run, hread]
    exact (runOptions_of_session (session_of_install hinstall)).trans (congrArg Exit.ofWorkload hstops)

end Logbook.Demo
