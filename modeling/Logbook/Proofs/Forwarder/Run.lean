/-
# A forwarder's run reports its segments

The buffer of a forwarder is taken, cut and put back at every write, and lines may span many writes,
with flushes and changes of the level in between. `run_eq_segments` says that none of this can be
seen: from its start to its end a forwarder does to the facility what the segments of the whole
history do, each of them handed over as one record if the gate is open at the moment of its cut
(`Deed.perform`), and what is pending is at any time what is held of the history.

The sink has to return from what the run hands to it; what a sink that raises a message does to a
run is another matter.

Key definitions: `Deed.perform`, `Call`, `Call.run`, `runAll`, `runToEnd`.
Key theorems: `Call.run_eq`, `runAll_eq`, `run_eq_segments`.
-/
import Logbook.Facility.Stream
import Logbook.Proofs.Facility.Frame
import Logbook.Proofs.Forwarder.Segments
import Logbook.Proofs.Registry.Thresholds

namespace Logbook

namespace Facility

/-- A registry is there: the process-wide one always, any other if its reference was handed out. -/
def Has (x : Facility) : Option (Ref Registry) → Prop
  | none => True
  | some r => r.index < x.registries.items.size

/-- The level of the registry that a forwarder follows. -/
def levelFor (x : Facility) (f : Forwarder) : Level := (x.registryOf f.registry).level

/-- Changes the level of the registry that a forwarder follows. -/
def turn (f : Forwarder) (l : Level) (x : Facility) : Facility :=
  x.updateRegistry f.registry (Registry.setLevel l)

theorem levelFor_turn {x : Facility} {f : Forwarder} (h : x.Has f.registry) (l : Level) :
    (x.turn f l).levelFor f = l := by
  unfold levelFor turn updateRegistry registryOf
  cases hr : f.registry with
  | none => exact Registry.level_setLevel l _
  | some r =>
    rw [hr] at h
    simp [Table.get_update h]

theorem has_turn {x : Facility} {f : Forwarder} (h : x.Has f.registry) (l : Level) :
    (x.turn f l).Has f.registry := by
  unfold turn updateRegistry
  cases hr : f.registry with
  | none => trivial
  | some r =>
    rw [hr] at h
    simpa [Has] using h

theorem has_of_bearings {x y : Facility} {r : Option (Ref Registry)} (h : x.bearings = y.bearings)
    (hy : y.Has r) : x.Has r := by
  have hs : x.registries = y.registries := congrArg Bearings.registries h
  cases r with
  | none => trivial
  | some r => simpa only [Has, hs] using hy

theorem levelFor_of_bearings {x y : Facility} (h : x.bearings = y.bearings) (f : Forwarder) :
    x.levelFor f = y.levelFor f := by
  rw [levelFor, levelFor, registryOf_bearings h]

end Facility

namespace Forwarder

/-- A forwarder with other bytes pending. -/
def holding (f : Forwarder) (held : List UInt8) : Forwarder := { f with pending := held }

@[simp] theorem pending_holding (f : Forwarder) (held : List UInt8) :
    (f.holding held).pending = held := rfl

theorem holding_pending (f : Forwarder) : f.holding f.pending = f := rfl

@[simp] theorem levelFor_holding (x : Facility) (f : Forwarder) (held : List UInt8) :
    x.levelFor (f.holding held) = x.levelFor f := rfl

/-- What a deed does to a facility: a segment is handed over as one record if the forwarder has a
level and the registry is at least that talkative, and is gone otherwise. -/
def Deed.perform (f : Forwarder) : Deed → Act Facility Unit
  | .cut segment l =>
    if f.level ≠ .off ∧ f.level ≤ l then Facility.deliver f.sink (f.reported segment) else pure ()
  | .turn l => Act.modify (Facility.turn f l)

@[simp] theorem perform_holding (f : Forwarder) (held : List UInt8) (d : Deed) :
    d.perform (f.holding held) = d.perform f := by
  cases d <;> rfl

/-- A call of a run. -/
inductive Call where
  | write (bs : List UInt8)
  | flush
  /-- The level of the registry that the forwarder follows is set. -/
  | setLevel (l : Level)

namespace Call

/-- What a call tells the forwarder. -/
def ticks : Call → List Tick
  | .write bs => bs.map .byte
  | .flush => [.flush]
  | .setLevel l => [.level l]

/-- What a call is to be answered with: a write with the number of bytes that it was given. -/
def answer : Call → Option Nat
  | .write bs => some bs.length
  | _ => none

/-- Makes a call. -/
def run : Call → Act (Forwarder × Facility) (Option Nat)
  | .write bs => do
    let n ← Forwarder.write Facility.outlet bs
    pure (some n)
  | .flush => do
    Forwarder.flush Facility.outlet
    pure none
  | .setLevel l => do
    Act.modify fun (f, x) => (f, x.turn f l)
    pure none

end Call

/-- What calls tell a forwarder. -/
def history (calls : List Call) : List Tick := calls.flatMap Call.ticks

/-- Makes calls one after the other. -/
def runAll : List Call → Act (Forwarder × Facility) (List (Option Nat))
  | [] => pure []
  | c :: cs => do
    let a ← c.run
    let as ← runAll cs
    pure (a :: as)

/-- Makes calls on a forwarder and gives it up. -/
def runToEnd (f : Forwarder) (calls : List Call) : Act Facility (List (Option Nat)) := fun x =>
  match runAll calls (f, x) with
  | (.done as, (f', x')) => (Writer.giveUp (.forwarder f') >>= fun _ => pure as) x'
  | (.raised m, (_, x')) => (.raised m, x')
  | (.aborted, (_, x')) => (.aborted, x')

/-! ### Cuts

The level of the registry that a forwarder follows is not touched by the reports between two
changes of it, so the gate at each cut is the one of the last change. -/

theorem perform_cut_keeps (f : Forwarder) (segment : List UInt8) (l : Level) :
    Act.Keeps Facility.bearings ((Deed.cut segment l).perform f) :=
  .ite (Facility.deliver_keeps _ _) (.pure _)

theorem emit_eq_perform {f : Forwarder} {x : Facility} {l : Level} (hl : x.levelFor f = l)
    (line : List UInt8) :
    emit Facility.outlet f line x = (Deed.cut line l).perform f x := by
  subst hl
  have hopen : f.isOpen ((x.registryOf f.registry).level) = true ↔
      f.level ≠ .off ∧ f.level ≤ x.levelFor f := by
    simp [isOpen, Facility.levelFor]
  simp only [emit, Facility.outlet, Deed.perform, record_eq_reported]
  by_cases h : f.level ≠ .off ∧ f.level ≤ x.levelFor f
  · rw [if_pos (hopen.mpr h), if_pos h]
  · rw [if_neg (fun h' => h (hopen.mp h')), if_neg h]
    rfl

theorem each_emit_eq (f : Forwarder) {l : Level} : ∀ (lines : List (List UInt8)) {x : Facility},
    x.levelFor f = l →
    Act.each (emit Facility.outlet f) lines x =
      Act.each (Deed.perform f) (lines.map fun line => .cut line l) x
  | [], _, _ => rfl
  | line :: lines, x, hl => by
    have hkeep := perform_cut_keeps f line l x
    rw [List.map_cons, Act.each_cons, Act.each_cons, Act.bind_run, Act.bind_run,
      emit_eq_perform hl]
    generalize (Deed.cut line l).perform f x = r at hkeep ⊢
    rcases r with ⟨_ | _ | _, y⟩
    · exact each_emit_eq f lines ((Facility.levelFor_of_bearings hkeep f).trans hl)
    · rfl
    · rfl

theorem each_cuts_keeps (f : Forwarder) (l : Level) (lines : List (List UInt8)) :
    Act.Keeps Facility.bearings (Act.each (Deed.perform f) (lines.map fun line => .cut line l)) := by
  induction lines with
  | nil => exact fun _ => rfl
  | cons line lines ih => exact (perform_cut_keeps f line l).bind fun _ => ih

/-! ### Calls -/

theorem write_eq {f : Forwarder} {x y : Facility} {l : Level} (hl : x.levelFor f = l)
    (bs : List UInt8)
    (h : Act.each (Deed.perform f) (deeds f.pending l (bs.map .byte)) x = (.done (), y)) :
    Forwarder.write Facility.outlet bs (f, x) =
      (.done bs.length, (f.holding (since f.pending (bs.map .byte)), y)) := by
  rw [deeds_bytes, ← each_emit_eq f _ hl] at h
  simp only [Forwarder.write, h, since_bytes, holding]

theorem flush_eq {f : Forwarder} {x y : Facility} {l : Level} (hl : x.levelFor f = l)
    (h : Act.each (Deed.perform f) (deeds f.pending l [.flush]) x = (.done (), y)) :
    Forwarder.flush Facility.outlet (f, x) = (.done (), (f.holding [], y)) := by
  by_cases hp : f.pending = []
  · have hf : f.holding [] = f := by rw [← hp, holding_pending]
    simp only [deeds, hp, if_true, Act.each, Act.pure, Prod.mk.injEq, true_and] at h
    simp only [Forwarder.flush, hp, List.isEmpty_nil, if_true, hf, h]
  · have hne : f.pending.isEmpty = false := by simpa using hp
    simp only [deeds, hp, if_false, Act.each_singleton] at h
    simp only [Forwarder.flush, hne, Bool.false_eq_true, if_false, emit_eq_perform hl, h, holding]

/-- A call does what its part of the history comes to, and leaves the forwarder holding what the
history leaves over. -/
theorem Call.run_eq (c : Call) {f : Forwarder} {x y : Facility}
    (h : Act.each (Deed.perform f) (deeds f.pending (x.levelFor f) c.ticks) x = (.done (), y)) :
    c.run (f, x) = (.done c.answer, (f.holding (since f.pending c.ticks), y)) := by
  cases c with
  | write bs => rw [Call.run, Act.bind_of_done _ (write_eq rfl bs h)]; rfl
  | flush => rw [Call.run, Act.bind_of_done _ (flush_eq rfl h)]; rfl
  | setLevel l =>
    have hy : x.turn f l = y := by
      simpa [Call.ticks, deeds, Act.each, Act.bind, Act.pure, Deed.perform, Act.modify] using h
    subst hy
    rfl

/-- After a call the registry is at the level that the history ends with. -/
theorem Call.perform_level (c : Call) {f : Forwarder} {x y : Facility} (hx : x.Has f.registry)
    {held : List UInt8} {l : Level} (hl : x.levelFor f = l)
    (h : Act.each (Deed.perform f) (deeds held l c.ticks) x = (.done (), y)) :
    y.Has f.registry ∧ y.levelFor f = levelAfter l c.ticks := by
  cases c with
  | write bs =>
    rw [Call.ticks, deeds_bytes] at h
    have hkeep := each_cuts_keeps f l (cutLines held bs).1 x
    rw [h] at hkeep
    exact ⟨Facility.has_of_bearings hkeep hx,
      by rw [Call.ticks, levelAfter_bytes, Facility.levelFor_of_bearings hkeep, hl]⟩
  | flush =>
    have hcuts : ∃ lines : List (List UInt8),
        deeds held l [.flush] = lines.map fun line => .cut line l := by
      by_cases hp : held = []
      · exact ⟨[], by simp [deeds, hp]⟩
      · exact ⟨[held], by simp [deeds, hp]⟩
    obtain ⟨lines, hlines⟩ := hcuts
    rw [Call.ticks, hlines] at h
    have hkeep := each_cuts_keeps f l lines x
    rw [h] at hkeep
    exact ⟨Facility.has_of_bearings hkeep hx, (Facility.levelFor_of_bearings hkeep f).trans hl⟩
  | setLevel l' =>
    have hy : x.turn f l' = y := by
      simpa [Call.ticks, deeds, Act.each, Act.bind, Act.pure, Deed.perform, Act.modify] using h
    subst hy
    exact ⟨Facility.has_turn hx l', Facility.levelFor_turn hx l'⟩

/-- Calls do what their history comes to. -/
theorem runAll_eq : ∀ (calls : List Call) {f : Forwarder} {x y : Facility}, x.Has f.registry →
    Act.each (Deed.perform f) (deeds f.pending (x.levelFor f) (history calls)) x = (.done (), y) →
    runAll calls (f, x) =
        (.done (calls.map Call.answer), (f.holding (since f.pending (history calls)), y)) ∧
      y.levelFor f = levelAfter (x.levelFor f) (history calls)
  | [], f, x, y, _, h => by
    have hy : x = y := by simpa [history, deeds, Act.each, Act.pure] using h
    subst hy
    exact ⟨rfl, rfl⟩
  | c :: cs, f, x, y, hx, h => by
    have hcons : history (c :: cs) = c.ticks ++ history cs := rfl
    rw [hcons, deeds_append] at h
    obtain ⟨z, hz, hy⟩ := Act.done_of_each_append h
    obtain ⟨hzx, hzl⟩ := c.perform_level hx rfl hz
    rw [← hzl] at hy
    obtain ⟨hrun, hlevel⟩ := runAll_eq cs (f := f.holding (since f.pending c.ticks)) hzx
      (by simpa [funext (perform_holding f _)] using hy)
    rw [runAll, Act.bind_of_done _ (c.run_eq hz), Act.bind_of_done _ hrun, hcons, since_append,
      levelAfter_append, ← hzl]
    exact ⟨rfl, hlevel⟩

/-! ### What a memory sink holds afterwards -/

/-- The record of a deed, if it has one. -/
def Deed.record? (f : Forwarder) : Deed → Option Record
  | .cut segment l => if f.level ≠ .off ∧ f.level ≤ l then some (f.reported segment) else none
  | .turn _ => none

theorem perform_memory {f : Forwarder} {k : Ref Sink} (hf : f.sink = some k) (d : Deed)
    {x : Facility} {rs : Array Record} (hk : k.index < x.sinks.items.size)
    (hx : x.sinks.get k = .memory rs) :
    ∃ y, d.perform f x = (.done (), y) ∧ k.index < y.sinks.items.size ∧
      y.sinks.get k = .memory (rs ++ (d.record? f).toArray) := by
  cases d with
  | cut segment l =>
    by_cases ho : f.level ≠ .off ∧ f.level ≤ l
    · refine ⟨x.remember k rs (f.reported segment), ?_, ?_, ?_⟩
      · rw [Deed.perform, if_pos ho, hf]
        simp only [Facility.deliver, Facility.report, hx]
      · simpa [Facility.remember, Facility.note, Facility.putSink, Table.put] using hk
      · simp only [Facility.remember, Facility.note, Facility.putSink, Table.get_put hk, Deed.record?,
          if_pos ho]
        simp
    · refine ⟨x, ?_, hk, ?_⟩
      · rw [Deed.perform, if_neg ho]
        rfl
      · simp only [hx, Deed.record?, if_neg ho]
        simp
  | turn l =>
    refine ⟨x.turn f l, rfl, ?_, ?_⟩
    · unfold Facility.turn Facility.updateRegistry
      split <;> exact hk
    · have hs : (x.turn f l).sinks = x.sinks := by
        unfold Facility.turn Facility.updateRegistry
        split <;> rfl
      simp [hs, hx, Deed.record?]

/-- A memory sink takes every record that it is handed, and keeps them in order. -/
theorem each_perform_memory {f : Forwarder} {k : Ref Sink} (hf : f.sink = some k) :
    ∀ (ds : List Deed) {x : Facility} {rs : Array Record}, k.index < x.sinks.items.size →
      x.sinks.get k = .memory rs →
      ∃ y, Act.each (Deed.perform f) ds x = (.done (), y) ∧
        y.sinks.get k = .memory (rs ++ (ds.filterMap (Deed.record? f)).toArray)
  | [], x, rs, _, hx => ⟨x, rfl, by simpa using hx⟩
  | d :: ds, x, rs, hk, hx => by
    obtain ⟨z, hz, hzk, hzs⟩ := perform_memory hf d hk hx
    obtain ⟨y, hy, hys⟩ := each_perform_memory hf ds hzk hzs
    refine ⟨y, by rw [Act.each_cons, Act.bind_of_done _ hz, hy], ?_⟩
    rw [hys, List.filterMap_cons]
    cases d.record? f <;> simp

/-! ### Whole runs -/

theorem runToEnd_eq (calls : List Call) {f : Forwarder} {x y : Facility} (hx : x.Has f.registry)
    (h : Act.each (Deed.perform f)
      (deeds f.pending (x.levelFor f) (history calls ++ [.flush])) x = (.done (), y)) :
    runToEnd f calls x = (.done (calls.map Call.answer), y) := by
  rw [deeds_append] at h
  obtain ⟨z, hz, hy⟩ := Act.done_of_each_append h
  obtain ⟨hrun, hlevel⟩ := runAll_eq calls hx hz
  have hflush := flush_eq (f := f.holding (since f.pending (history calls))) (x := z) (y := y)
    hlevel (by simpa [funext (perform_holding f _)] using hy)
  simp only [runToEnd, hrun, Writer.giveUp, Act.bind_run, hflush]
  rfl

/-- **A forwarder reports the segments of what is written to it.** Let a forwarder that holds
nothing yet be written to, flushed and given up, while the level of the registry that it follows
changes, and let its sink return from whatever it is handed. Then the run does to the facility
exactly what its segments do, in order: each one that is cut while the gate is open is one record,
and the others are gone. At any time the pending bytes are those since the last cut, without a
newline, and every write takes all that it is given. A memory sink holds exactly these records
afterwards. -/
theorem run_eq_segments (f : Forwarder) (calls : List Call) (x y : Facility)
    (hf : f.pending = []) (hx : x.Has f.registry)
    (h : Act.each (Deed.perform f) (deeds [] (x.levelFor f) (history calls ++ [.flush])) x =
      (.done (), y)) :
    runToEnd f calls x = (.done (calls.map Call.answer), y) ∧
      (∀ past rest, calls = past ++ rest →
        newline ∉ since [] (history past) ∧
          ∃ z, Act.each (Deed.perform f) (deeds [] (x.levelFor f) (history past)) x =
              (.done (), z) ∧
            runAll past (f, x) =
              (.done (past.map Call.answer), (f.holding (since [] (history past)), z))) ∧
      ∀ k rs, f.sink = some k → k.index < x.sinks.items.size → x.sinks.get k = .memory rs →
        y.sinks.get k = .memory (rs ++
          ((deeds [] (x.levelFor f) (history calls ++ [.flush])).filterMap
            (Deed.record? f)).toArray) := by
  refine ⟨runToEnd_eq calls hx (by rw [hf]; exact h), ?_, ?_⟩
  · rintro past rest rfl
    refine ⟨newline_notMem_since _ List.not_mem_nil, ?_⟩
    have hsplit : history (past ++ rest) ++ [.flush] = history past ++ (history rest ++ [.flush]) := by
      simp [history]
    rw [hsplit, deeds_append] at h
    obtain ⟨z, hz, -⟩ := Act.done_of_each_append h
    have hrun := (runAll_eq past hx (by rw [hf]; exact hz)).1
    rw [hf] at hrun
    exact ⟨z, hz, hrun⟩
  · intro k rs hk hin hmem
    obtain ⟨y', hy', hs⟩ := each_perform_memory hk
      (deeds [] (x.levelFor f) (history calls ++ [.flush])) hin hmem
    rw [h, Prod.mk.injEq] at hy'
    rw [hy'.2, hs]

/-- A line over two writes, one that is cut while the gate is closed, an empty one, and a rest that
is cut when the forwarder is given up. -/
theorem run_eq_segments_across_a_closed_gate :
    let f : Forwarder := { ofLevel .warning ⟨"model", 1⟩ with sink := some ⟨0⟩ }
    let x : Facility := { Facility.start .recorder ⟨[]⟩ "" none with sinks := ⟨#[.memory #[]]⟩ }
    let calls : List Call := [.write [0x61], .write [0x62, 0x0a, 0x63], .setLevel .off,
      .write [0x0a], .setLevel .info, .write [0x0a, 0x64]]
    f.pending = [] ∧ x.Has f.registry ∧ ∃ y,
      Act.each (Deed.perform f) (deeds [] (x.levelFor f) (history calls ++ [.flush])) x =
          (.done (), y) ∧
        runToEnd f calls x = (.done [some 1, some 3, none, some 1, none, some 2], y) ∧
        y.sinks.get ⟨0⟩ = .memory #[f.reported [0x61, 0x62], f.reported [], f.reported [0x64]] := by
  intro f x calls
  obtain ⟨y, hy, -⟩ : ∃ y, Act.each (Deed.perform f)
      (deeds [] (x.levelFor f) (history calls ++ [.flush])) x = (.done (), y) ∧
        y.sinks.get ⟨0⟩ = .memory (#[] ++ _) :=
    each_perform_memory rfl _ (by decide) rfl
  obtain ⟨hrun, -, hmem⟩ := run_eq_segments f calls x y rfl trivial hy
  exact ⟨rfl, trivial, y, hy, hrun, hmem ⟨0⟩ #[] rfl (by decide) rfl⟩

end Forwarder

end Logbook
