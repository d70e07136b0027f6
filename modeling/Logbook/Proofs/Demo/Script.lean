/-
# The script of the workload

The workload says that the elaboration is done, then has its cycles one after the other, and complains
if there were none. A cycle lasts ten nanoseconds, and the clock counts one delta cycle in it, after the
fetch. So which records are dispatched, and what the clock shows then, can be written down from the
registry and the number of cycles alone (`script`), and that is what the workload dispatches in every
facility that can make its lines (`simulate_keeps_to_script`).

Key definitions: `cycleLines`, `script`, `cues`.
Key theorems: `simulateFrom_performs`, `stamped_cycles`, `simulate_performs`,
`simulate_keeps_to_script`.
-/
import Logbook.Proofs.Demo.Cycle

namespace Logbook.Demo

/-! ### The script -/

/-- The record at the start. -/
def opening (r : Registry) (cycles : Nat) : List Record :=
  due r .info "top" ("elaboration done, running " ++ toString cycles ++ " cycles")

/-- The record at the end, if there were no cycles. -/
def closing (cycles : Nat) : List Record :=
  if cycles = 0 then [entry .error "top" "nothing was simulated"] else []

/-- The records of a cycle with their times: the fetch before the delta cycle, everything else after
it. -/
def cycleLines (r : Registry) (cycle : Nat) : List (Reading × Record) :=
  (fetched r cycle).map (⟨10 * cycle, 0⟩, ·) ++
    (onBus r cycle ++ fromVendor r cycle).map (⟨10 * cycle, 1⟩, ·)

/-- The records of the workload with their times. -/
def script (r : Registry) (cycles : Nat) : List (Reading × Record) :=
  (opening r cycles).map (⟨0, 0⟩, ·) ++
    ((List.range cycles).flatMap (cycleLines r) ++ (closing cycles).map (⟨0, 0⟩, ·))

/-- The cues of some cycles. -/
def cyclesCues (r : Registry) (cycle n : Nat) : List Cue := (List.range' cycle n).flatMap (cycleCues r)

/-- The cues of the workload. -/
def cues (r : Registry) (cycles : Nat) : List Cue :=
  (opening r cycles).map .tell ++ (cyclesCues r 0 cycles ++ (closing cycles).map .tell)

theorem mild_opening (r : Registry) (cycles : Nat) : ∀ q ∈ (opening r cycles).map Cue.tell, q.Mild :=
  mild_tells (mild_due (by decide) r)

theorem mild_closing (cycles : Nat) : ∀ q ∈ (closing cycles).map Cue.tell, q.Mild :=
  mild_tells (mild_ite (by decide))

theorem mild_cyclesCues (r : Registry) (cycle n : Nat) : ∀ q ∈ cyclesCues r cycle n, q.Mild := by
  intro q hq
  obtain ⟨a, -, ha⟩ := List.mem_flatMap.mp hq
  exact mild_cycleCues r a q ha

theorem mild_cues (r : Registry) (cycles : Nat) : ∀ q ∈ cues r cycles, q.Mild :=
  List.forall_mem_append.mpr ⟨mild_opening r cycles,
    List.forall_mem_append.mpr ⟨mild_cyclesCues r 0 cycles, mild_closing cycles⟩⟩

theorem cyclesCues_succ (r : Registry) (cycle n : Nat) :
    cyclesCues r cycle (n + 1) = cycleCues r cycle ++ cyclesCues r (cycle + 1) n := by
  rw [cyclesCues, List.range'_succ, List.flatMap_cons, cyclesCues]

/-! ### The times of the cycles -/

theorem stamped_vendorCues (r : Registry) (cycle : Nat) (k : Clock) :
    stamped (vendorCues r cycle) k = (fromVendor r cycle).map (k.reading, ·) ∧
      turned (vendorCues r cycle) k = k := by
  have htells := stamped_tells (fromVendor r cycle) k
  have hsplit : vendorCues r cycle =
      [.remark redirected] ++ ((fromVendor r cycle).map .tell ++ [.remark restored]) := rfl
  rw [hsplit, stamped_append, stamped_append, turned_append, turned_append]
  simp only [show turned [Cue.remark redirected] k = k from rfl, htells.1, htells.2]
  exact ⟨by simp [stamped, Cue.record?], rfl⟩

/-- The records of a cycle have the time that the clock shows, those after the fetch one delta cycle
later; then time moves on. -/
theorem stamped_cycleCues (r : Registry) (cycle : Nat) (k : Clock) :
    stamped (cycleCues r cycle) k = (fetched r cycle).map (k.reading, ·) ++
        (onBus r cycle ++ fromVendor r cycle).map (k.tick.reading, ·) ∧
      turned (cycleCues r cycle) k = k.advance cyclePeriod := by
  have hfetch := stamped_tells (fetched r cycle) k
  have hbus := stamped_tells (onBus r cycle) k.tick
  have hvendor := stamped_vendorCues r cycle k.tick
  have hsplit : cycleCues r cycle = (fetched r cycle).map .tell ++
      ([.tick] ++ ((onBus r cycle).map .tell ++ (vendorCues r cycle ++ [.advance cyclePeriod]))) := rfl
  rw [hsplit]
  simp only [stamped_append, turned_append, hfetch.1, hfetch.2, show turned [Cue.tick] k = k.tick from rfl,
    hbus.1, hbus.2, hvendor.1, hvendor.2]
  exact ⟨by simp [stamped, Cue.record?], rfl⟩

/-- A cycle takes ten nanoseconds, as far as the clock can show. -/
theorem now_advance_cyclePeriod (k : Clock) :
    (k.advance cyclePeriod).now.toNat = min (k.now.toNat + 10) Clock.lastTime :=
  Clock.now_advance cyclePeriod k

/-- While the clock can show the time, each cycle has its records at its time. -/
theorem stamped_cycles (r : Registry) : ∀ (n cycle : Nat) {k : Clock}, k.reading = ⟨10 * cycle, 0⟩ →
    10 * (cycle + n) ≤ Clock.lastTime →
    stamped (cyclesCues r cycle n) k = (List.range' cycle n).flatMap (cycleLines r) ∧
      (turned (cyclesCues r cycle n) k).reading = ⟨10 * (cycle + n), 0⟩
  | 0, _, _, hk, _ => ⟨rfl, hk⟩
  | n + 1, cycle, k, hk, hlast => by
    obtain ⟨hstamped, hturned⟩ := stamped_cycleCues r cycle k
    have hnow : k.now.toNat = 10 * cycle := congrArg Reading.now hk
    have hdeltas : k.deltas = 0 := congrArg Reading.deltas hk
    have htick : k.tick.reading = ⟨10 * cycle, 1⟩ := by
      rw [Clock.reading, Clock.tick, hnow, hdeltas]
      rfl
    have hnext : (k.advance cyclePeriod).reading = ⟨10 * (cycle + 1), 0⟩ := by
      have hadvance := now_advance_cyclePeriod k
      rw [hnow, Nat.min_eq_left (by omega)] at hadvance
      rw [Clock.reading, hadvance, Nat.mul_succ]
      rfl
    have ih := stamped_cycles r n (cycle + 1) hnext (by omega)
    rw [cyclesCues_succ, stamped_append, turned_append, hstamped, hturned, ih.1, ih.2, List.range'_succ,
      List.flatMap_cons, cycleLines, hk, htick]
    exact ⟨rfl, by rw [Nat.add_right_comm, Nat.add_assoc]⟩

/-- From the start of time the records of the workload have the times of the script. -/
theorem stamped_cues (r : Registry) {cycles : Nat} (hlast : 10 * cycles ≤ Clock.lastTime) :
    stamped (cues r cycles) .start = script r cycles ∧
      (turned (cues r cycles) .start).reading = ⟨10 * cycles, 0⟩ := by
  have hstart : Clock.start.reading = ⟨0, 0⟩ := rfl
  have hopening := stamped_tells (opening r cycles) .start
  obtain ⟨hcycles, hend⟩ := stamped_cycles r cycles 0 (k := .start) hstart (by omega)
  have hclosing := stamped_tells (closing cycles) (turned (cyclesCues r 0 cycles) .start)
  have hclose : (closing cycles).map ((⟨10 * (0 + cycles), 0⟩ : Reading), ·) =
      (closing cycles).map (⟨0, 0⟩, ·) := by
    by_cases hzero : cycles = 0
    · rw [hzero]
    · rw [closing, if_neg hzero]
      rfl
  constructor
  · rw [cues, stamped_append, stamped_append, hopening.1, hopening.2, hcycles, hclosing.1, hend, hclose,
      hstart, script, List.range_eq_range']
  · rw [cues, turned_append, turned_append, hopening.2, hclosing.2, hend, Nat.zero_add]

/-! ### The run -/

variable {c : Ref Clock} {s : Ref Writer} {x : Facility}

/-- Cycles perform their cues, unless the fetch of one is to be reported and cannot be. -/
theorem simulateFrom_performs : ∀ (n cycle : Nat) {x : Facility}, Stage c s x →
    Reportable x.registry (cycle + n) →
    Performs c (simulateFrom c s cycle n) (cyclesCues x.registry cycle n) x
  | 0, _, _, _, _ => .nothing
  | n + 1, cycle, x, h, hcycles => by
    rw [cyclesCues_succ, simulateFrom]
    refine (simulateCycle_performs h (hcycles.mono (by omega))).bind fun y hrun => ?_
    have hy := h.played (mild_cycleCues x.registry cycle) hrun
    rw [← hy.registry]
    exact simulateFrom_performs n (cycle + 1) hy.stage (by rw [hy.registry]; exact hcycles.mono (by omega))

theorem opening_performs (cycles : Nat) :
    Performs c (say .info "top" (.ok ("elaboration done, running " ++ toString cycles ++ " cycles")))
      ((opening x.registry cycles).map .tell) x := say_of_info rfl

theorem closing_performs (cycles : UInt32) :
    Performs c (if cycles = 0 then say .error "top" (.ok "nothing was simulated") else pure ())
      ((closing cycles.toNat).map .tell) x := by
  have hzero : cycles.toNat = 0 ↔ cycles = 0 := by
    rw [← UInt32.toNat_inj]
    rfl
  simp only [closing, hzero]
  split
  · exact say_of_worse (by decide)
  · exact .nothing

/-- The workload performs its cues, unless a fetch is to be reported and cannot be. -/
theorem simulate_performs (h : Stage c s x) {cycles : UInt32} (hcycles : Reportable x.registry cycles.toNat) :
    Performs c (simulate c s cycles) (cues x.registry cycles.toNat) x := by
  rw [simulate, cues]
  refine (opening_performs cycles.toNat).bind fun y hrun => ?_
  have hy := h.played (mild_opening x.registry cycles.toNat) hrun
  rw [← hy.registry]
  rw [← hy.registry, ← Nat.zero_add cycles.toNat] at hcycles
  exact (simulateFrom_performs cycles.toNat 0 hy.stage hcycles).bind fun _ _ => closing_performs cycles

/-- **The workload keeps to its script.** Let the workload run for at most 2^29 cycles in a facility with
any registry, from the start of time, where the sink in force and the backend can make their lines. Then
it returns, and it does to the facility what playing its cues does. The records that are dispatched on
the way are those of the script, in order and with what the clock shows at each of them: a memory sink
that is in force has got just these. In the end ten nanoseconds have passed for each cycle, and the stream
is as it was. -/
theorem simulate_keeps_to_script (c : Ref Clock) (s : Ref Writer) (cycles : UInt32) (x : Facility)
    (hcycles : cycles.toNat ≤ 0x20000000) (hx : Stage c s x) (hstart : x.clocks.get c = .start) :
    ∃ y, simulate c s cycles x = (.done (), y) ∧
      simulate c s cycles x = Act.each (Cue.play c) (cues x.registry cycles.toNat) x ∧
      told c (cues x.registry cycles.toNat) x = script x.registry cycles.toNat ∧
      (∀ k rs, x.Remembers k rs → x.route = some k →
        y.Remembers k (rs ++ ((script x.registry cycles.toNat).map Prod.snd).toArray)) ∧
      (y.clocks.get c).reading = ⟨10 * cycles.toNat, 0⟩ ∧ y.streams = x.streams := by
  have hmild := mild_cues x.registry cycles.toNat
  have hlast : 10 * cycles.toNat ≤ Clock.lastTime := by
    have hsize : 0x20000000 ≤ Clock.lastTime / 10 := by decide
    omega
  obtain ⟨hscript, hend⟩ := stamped_cues x.registry hlast
  obtain ⟨y, hplay, hy⟩ := hx.each_play _ hmild
  have hperforms : Performs c (simulate c s cycles) _ x := simulate_performs hx (.inl hcycles)
  have htold := hx.told_eq_stamped _ hmild
  rw [hstart, hscript] at htold
  refine ⟨y, hperforms.trans hplay, hperforms, htold, fun k rs hk hroute => ?_, ?_, hy.streams⟩
  · have hremembers := hx.each_play_remembers _ hmild hplay hk hroute
    rwa [← map_snd_stamped _ .start, hscript] at hremembers
  · rw [hy.clock, hstart, hend]

/-- Three cycles at level info, with a threshold for the processor that shows its fetches and one for all
of the model that shows nothing else of it but the warning. -/
theorem simulate_keeps_to_script_under_overrides :
    let r := ((Registry.ofLevel .info).setCategoryLevel "top" .warning).setCategoryLevel "top.cpu" .debug
    let x : Facility := { Facility.start .recorder ⟨[]⟩ "" none with
      registry := r
      globalSink := some ⟨0⟩
      clocks := ⟨#[.start]⟩
      sinks := ⟨#[.memory #[]]⟩
      streams := ⟨#[.console]⟩ }
    let lines : List (Reading × Record) := [
      (⟨0, 0⟩, entry .debug "top.cpu" "fetch pc=0x80000000"),
      (⟨0, 1⟩, entry .info "SystemC" "vendor model: cycle 0 ok"),
      (⟨10, 0⟩, entry .debug "top.cpu" "fetch pc=0x80000004"),
      (⟨10, 1⟩, entry .info "SystemC" "vendor model: cycle 1 ok"),
      (⟨20, 0⟩, entry .debug "top.cpu" "fetch pc=0x80000008"),
      (⟨20, 1⟩, entry .warn "top.bus" "slave response delayed"),
      (⟨20, 1⟩, entry .info "SystemC" "vendor model: cycle 2 ok")]
    UInt32.toNat 3 ≤ 0x20000000 ∧ Stage ⟨0⟩ ⟨0⟩ x ∧ x.clocks.get ⟨0⟩ = .start ∧
      told ⟨0⟩ (cues r 3) x = lines ∧
      ∃ y, simulate ⟨0⟩ ⟨0⟩ 3 x = (.done (), y) ∧ y.Remembers ⟨0⟩ (lines.map Prod.snd).toArray ∧
        (y.clocks.get ⟨0⟩).reading = ⟨30, 0⟩ := by
  intro r x lines
  have hcycles : UInt32.toNat 3 ≤ 0x20000000 := by decide
  have hx : Stage ⟨0⟩ ⟨0⟩ x := by decide
  have hstart : x.clocks.get ⟨0⟩ = .start := rfl
  have hscript : script r 3 = lines := by decide +kernel
  obtain ⟨y, hrun, -, htold, hmemory, hend, -⟩ :=
    simulate_keeps_to_script ⟨0⟩ ⟨0⟩ 3 x hcycles hx hstart
  refine ⟨hcycles, hx, hstart, htold.trans hscript, y, hrun, ?_, hend⟩
  have hmem := hmemory ⟨0⟩ #[] ⟨by decide, rfl⟩ rfl
  rw [show x.registry = r from rfl, show UInt32.toNat 3 = 3 from rfl, hscript] at hmem
  simpa using hmem

end Logbook.Demo
