/-
# Cues

What the workload does to the log facility and its clock comes down to four kinds of cues: a record is
dispatched, a stream remarks something about itself, the clock counts a delta cycle, or it moves forward.
A program performs some cues when it does to a facility what playing them one after the other does. Where
everything is in place (`Stage`), a cue returns and leaves everything in place, so all of them are played
(`Stage.each_play`), and the clock shows at each record what the cues before it made of it
(`Stage.told_eq_stamped`).

Key definitions: `Cue`, `Cue.play`, `Performs`, `Stage`, `told`, `stamped`.
Key theorems: `Performs.bind`, `Stage.each_play`, `Stage.told_eq_stamped`,
`Stage.each_play_remembers`.
-/
import Logbook.Demo.Workload
import Logbook.Proofs.Facility.Legible

namespace Logbook

namespace Clock

/-- What a clock shows. -/
def reading (k : Clock) : Reading := ⟨k.now.toNat, k.deltas⟩

end Clock

namespace Demo

/-- What the workload does to the facility and its clock. -/
inductive Cue where
  /-- A record is dispatched. -/
  | tell (r : Record)
  /-- A stream remarks something about itself. -/
  | remark (e : Event)
  /-- The clock counts a delta cycle. -/
  | tick
  /-- The clock moves forward. -/
  | advance (step : Nat)

namespace Cue

/-- Plays a cue, with a clock. -/
def play (c : Ref Clock) : Cue → Act Facility Unit
  | .tell r => Facility.dispatch r
  | .remark e => Facility.carry e
  | .tick => onClock c Clock.tick
  | .advance step => onClock c (Clock.advance step)

/-- What a cue makes of the clock. -/
def turn : Cue → Clock → Clock
  | .tell _ | .remark _ => id
  | .tick => Clock.tick
  | .advance step => Clock.advance step

/-- The record that is dispatched. -/
def record? : Cue → Option Record
  | .tell r => some r
  | .remark _ | .tick | .advance _ => none

/-- A cue does not ask for the end of the process. -/
def Mild (q : Cue) : Prop := ∀ r ∈ q.record?, r.severity ≠ .fatal

end Cue

/-- What cues make of a clock, one after the other. -/
def turned (qs : List Cue) (k : Clock) : Clock := qs.foldl (fun k q => q.turn k) k

theorem turned_append (qs qs' : List Cue) (k : Clock) : turned (qs ++ qs') k = turned qs' (turned qs k) :=
  List.foldl_append

/-! ### Performing cues -/

/-- A program does to a facility what playing some cues does. -/
def Performs (c : Ref Clock) (act : Act Facility Unit) (qs : List Cue) (x : Facility) : Prop :=
  act x = Act.each (Cue.play c) qs x

namespace Performs

variable {c : Ref Clock} {act : Act Facility Unit} {qs qs' : List Cue} {x : Facility}

theorem nothing : Performs c (pure ()) [] x := rfl

theorem cue (q : Cue) : Performs c (q.play c) [q] x := (congrFun (Act.each_singleton _ q) x).symm

/-- One program after another performs the cues of the one and then those of the other. -/
theorem bind {f : Unit → Act Facility Unit} (h : Performs c act qs x)
    (hf : ∀ y, Act.each (Cue.play c) qs x = (.done (), y) → Performs c (f ()) qs' y) :
    Performs c (act >>= f) (qs ++ qs') x := by
  rw [Performs] at h
  rw [Performs, Act.each_append, Act.bind_run, Act.bind_run, h]
  rcases hr : Act.each (Cue.play c) qs x with ⟨_ | _ | _, y⟩
  · exact hf y hr
  · rfl
  · rfl

end Performs

/-! ### The stage -/

/-- The clock and the stream of the workload are there, and every line can be made. -/
structure Stage (c : Ref Clock) (s : Ref Writer) (x : Facility) : Prop where
  clock : c.index < x.clocks.items.size
  stream : s.index < x.streams.items.size
  legible : x.Legible

instance (c : Ref Clock) (s : Ref Writer) (x : Facility) : Decidable (Stage c s x) :=
  decidable_of_iff (c.index < x.clocks.items.size ∧ s.index < x.streams.items.size ∧ x.Legible)
    ⟨fun ⟨hc, hs, hl⟩ => ⟨hc, hs, hl⟩, fun ⟨hc, hs, hl⟩ => ⟨hc, hs, hl⟩⟩

/-- After some cues everything is still in place, and only the clock has been moved. -/
structure Played (c : Ref Clock) (s : Ref Writer) (qs : List Cue) (x y : Facility) : Prop where
  stage : Stage c s y
  registry : y.registry = x.registry
  streams : y.streams = x.streams
  route : y.route = x.route
  clock : y.clocks.get c = turned qs (x.clocks.get c)

theorem Played.append {c : Ref Clock} {s : Ref Writer} {qs qs' : List Cue} {x y z : Facility}
    (h : Played c s qs x y) (h' : Played c s qs' y z) : Played c s (qs ++ qs') x z where
  stage := h'.stage
  registry := h'.registry.trans h.registry
  streams := h'.streams.trans h.streams
  route := h'.route.trans h.route
  clock := by rw [h'.clock, h.clock, turned_append]

namespace Stage

variable {c : Ref Clock} {s : Ref Writer} {x y : Facility}

/-- What leaves the bearings of a facility alone and leaves it legible leaves everything in place. -/
theorem played_of_bearings (h : Stage c s x) (hlegible : y.Legible) (hy : y.bearings = x.bearings)
    {q : Cue} (hq : q.turn = id) : Played c s [q] x y := by
  have hregistry : y.registry = x.registry := congrArg Facility.Bearings.registry hy
  have hclocks : y.clocks = x.clocks := congrArg Facility.Bearings.clocks hy
  have hstreams : y.streams = x.streams := congrArg Facility.Bearings.streams hy
  have hclock : y.clocks.get c = turned [q] (x.clocks.get c) := by
    rw [hclocks, turned, List.foldl_cons, List.foldl_nil, hq, id]
  exact ⟨⟨hclocks ▸ h.clock, hstreams ▸ h.stream, hlegible⟩, hregistry, hstreams,
    Facility.route_of_bearings hy, hclock⟩

/-- A change of the clock returns and leaves everything else in place. -/
theorem onClock (h : Stage c s x) {q : Cue} (hq : q.play c = Demo.onClock c q.turn) :
    ∃ y, q.play c x = (.done (), y) ∧ Played c s [q] x y := by
  refine ⟨{ x with clocks := x.clocks.update c q.turn }, by rw [hq]; rfl, ?_⟩
  exact ⟨⟨by simpa using h.clock, h.stream, h.legible⟩, rfl, rfl, rfl, Table.get_update h.clock _⟩

/-- A cue is played, and leaves everything in place. -/
theorem play (h : Stage c s x) {q : Cue} (hq : q.Mild) :
    ∃ y, q.play c x = (.done (), y) ∧ Played c s [q] x y := by
  cases q with
  | tell r =>
    obtain ⟨y, hrun, hy⟩ := Facility.dispatch_of_legible (hq r rfl) h.legible
    have hkeep := Facility.dispatch_keeps r x
    rw [hrun] at hkeep
    exact ⟨y, hrun, h.played_of_bearings hy hkeep rfl⟩
  | remark e =>
    obtain ⟨y, hrun, hy⟩ := Facility.carry_of_legible e h.legible
    have hkeep := Facility.carry_keeps e x
    rw [hrun] at hkeep
    exact ⟨y, hrun, h.played_of_bearings hy hkeep rfl⟩
  | tick => exact h.onClock rfl
  | advance step => exact h.onClock rfl

theorem played_nothing (h : Stage c s x) : Played c s [] x x := ⟨h, rfl, rfl, rfl, rfl⟩

/-- Cues are all played. -/
theorem each_play : ∀ (qs : List Cue) {x : Facility}, (∀ q ∈ qs, q.Mild) → Stage c s x →
    ∃ y, Act.each (Cue.play c) qs x = (.done (), y) ∧ Played c s qs x y
  | [], x, _, h => ⟨x, rfl, h.played_nothing⟩
  | q :: qs, x, hqs, h => by
    obtain ⟨y, hrun, hy⟩ := h.play (hqs q (by simp))
    obtain ⟨z, hrest, hz⟩ := each_play qs (fun q' hq' => hqs q' (by simp [hq'])) hy.stage
    refine ⟨z, ?_, hy.append hz⟩
    rw [Act.each_cons, Act.bind_of_done _ hrun, hrest]

/-- On a stage it is known what the next program finds. -/
theorem played (h : Stage c s x) {qs : List Cue} (hqs : ∀ q ∈ qs, q.Mild)
    (hy : Act.each (Cue.play c) qs x = (.done (), y)) : Played c s qs x y := by
  obtain ⟨y', hrun, hy'⟩ := each_play qs hqs h
  rw [hrun, Prod.mk.injEq] at hy
  rwa [← hy.2]

end Stage

/-! ### The records and their times -/

/-- The records that are dispatched while cues are played in a facility, up to the first cue that does
not return, each with what the clock shows when it is dispatched. -/
def told (c : Ref Clock) : List Cue → Facility → List (Reading × Record)
  | [], _ => []
  | q :: qs, x =>
    (q.record?.map ((x.clocks.get c).reading, ·)).toList ++
      match q.play c x with
      | (.done (), y) => told c qs y
      | _ => []

/-- The records of some cues, each with what a clock shows that only the cues move. -/
def stamped : List Cue → Clock → List (Reading × Record)
  | [], _ => []
  | q :: qs, k => (q.record?.map (k.reading, ·)).toList ++ stamped qs (q.turn k)

theorem stamped_append (qs' : List Cue) : ∀ (qs : List Cue) (k : Clock),
    stamped (qs ++ qs') k = stamped qs k ++ stamped qs' (turned qs k)
  | [], _ => rfl
  | q :: qs, k => by
    rw [List.cons_append, stamped, stamped, stamped_append qs' qs, List.append_assoc]
    rfl

/-- Cues that leave the clock alone have their records at one time. -/
theorem stamped_tells (rs : List Record) (k : Clock) :
    stamped (rs.map .tell) k = rs.map (k.reading, ·) ∧ turned (rs.map .tell) k = k := by
  induction rs with
  | nil => exact ⟨rfl, rfl⟩
  | cons r rs ih => exact ⟨congrArg ((k.reading, r) :: ·) ih.1, ih.2⟩

/-- The records of some cues. -/
theorem map_snd_stamped : ∀ (qs : List Cue) (k : Clock),
    (stamped qs k).map Prod.snd = qs.filterMap Cue.record?
  | [], _ => rfl
  | q :: qs, k => by
    rw [stamped, List.map_append, map_snd_stamped qs, List.filterMap_cons]
    cases q <;> rfl

namespace Stage

variable {c : Ref Clock} {s : Ref Writer}

/-- The clock shows at each record what the cues before it made of it. -/
theorem told_eq_stamped : ∀ (qs : List Cue) {x : Facility}, (∀ q ∈ qs, q.Mild) → Stage c s x →
    told c qs x = stamped qs (x.clocks.get c)
  | [], _, _, _ => rfl
  | q :: qs, x, hqs, h => by
    obtain ⟨y, hrun, hy⟩ := h.play (hqs q (by simp))
    have hclock : y.clocks.get c = q.turn (x.clocks.get c) := hy.clock
    rw [told, stamped, hrun, ← hclock]
    exact congrArg _ (told_eq_stamped qs (fun q' hq' => hqs q' (by simp [hq'])) hy.stage)

/-- A cue that is played adds its record to the memory sink in force. -/
theorem play_remembers {x : Facility} {k : Ref Sink} {rs : Array Record} (hx : x.Remembers k rs)
    (hroute : x.route = some k) (q : Cue) :
    (q.play c x).2.Remembers k (rs ++ q.record?.toArray) := by
  have hsame : rs ++ (none : Option Record).toArray = rs := by simp
  cases q with
  | tell r =>
    have hreport := Facility.report_remembers hx k r
    rw [if_pos rfl] at hreport
    simpa only [Cue.play, Facility.dispatch, hroute, Cue.record?, Option.toArray_some,
      Array.push_eq_append] using hreport
  | remark e =>
    rw [Cue.record?, hsame]
    exact Facility.remembers_of_sinks (Facility.carry_sinks e x) hx
  | tick =>
    rw [Cue.record?, hsame]
    exact Facility.remembers_of_sinks rfl hx
  | advance step =>
    rw [Cue.record?, hsame]
    exact Facility.remembers_of_sinks rfl hx

/-- The memory sink in force gets the records of the cues that are played. -/
theorem each_play_remembers {k : Ref Sink} : ∀ (qs : List Cue) {x y : Facility} {rs : Array Record},
    (∀ q ∈ qs, q.Mild) → Stage c s x → Act.each (Cue.play c) qs x = (.done (), y) →
    x.Remembers k rs → x.route = some k → y.Remembers k (rs ++ (qs.filterMap Cue.record?).toArray)
  | [], x, y, rs, _, _, hy, hx, _ => by
    obtain rfl : x = y := congrArg Prod.snd hy
    simpa using hx
  | q :: qs, x, y, rs, hqs, h, hy, hx, hroute => by
    obtain ⟨z, hrun, hz⟩ := h.play (hqs q (by simp))
    have hmem := play_remembers (c := c) hx hroute q
    rw [hrun] at hmem
    rw [Act.each_cons, Act.bind_of_done _ hrun] at hy
    have hrest := each_play_remembers qs (fun q' hq' => hqs q' (by simp [hq'])) hz.stage hy hmem
      (hz.route.trans hroute)
    have happend : rs ++ q.record?.toArray ++ (qs.filterMap Cue.record?).toArray =
        rs ++ ((q :: qs).filterMap Cue.record?).toArray := by
      rw [List.filterMap_cons]
      cases q.record? <;> simp
    rwa [happend] at hrest

end Stage

end Demo

end Logbook
