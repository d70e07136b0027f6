/-
# What the writers of a stream account for

The records of a stream account for what happened around it: a buffer or a guest has what it had at
first and what was told to the writers that stand for it, and a memory sink the records of what the
forwarders have cut, as far as these go there. Whichever writer is told something, also if it is given up
then, the accounts stay right, and the other writers are as they were (`Records.Tells`).

Key definitions: `Records.bytesTo`, `Records.recordsTo`, `Records.Accounted`, `Records.retire`,
`Records.discard`.
Key theorems: `Records.tells_tell`, `Records.tells_retire`, `Records.tells_discard`.
-/
import Mathlib.Data.List.Basic
import Logbook.Proofs.Facility.Memory
import Logbook.Proofs.Stream.Moves
import Logbook.Proofs.Stream.Records

namespace Logbook

open Forwarder (Heard Tick bytesOf segments since)

/-! ### Accounts -/

/-- The records that a sink gets of what a writer has cut. -/
def Writer.recordsTo (k : Ref Sink) (x : Facility) (cuts : List (List UInt8 × Level)) :
    Writer → List Record
  | .forwarder f => f.recordsTo k x cuts
  | _ => []

theorem Writer.recordsTo_nil (k : Ref Sink) (x : Facility) (w : Writer) : w.recordsTo k x [] = [] := by
  cases w <;> simp [recordsTo, Forwarder.recordsTo]

theorem Writer.recordsTo_append (k : Ref Sink) (x : Facility) (cuts cuts' : List (List UInt8 × Level))
    (w : Writer) :
    w.recordsTo k x (cuts ++ cuts') = w.recordsTo k x cuts ++ w.recordsTo k x cuts' := by
  cases w with
  | forwarder f => exact f.recordsTo_append k x cuts cuts'
  | buffer b => rfl
  | guest g => rfl
  | discard => rfl
  | console => rfl

/-- What a writer has been told does not matter for the records of what it cuts. -/
theorem Writer.recordsTo_having (k : Ref Sink) (x : Facility) (cuts : List (List UInt8 × Level))
    (w : Writer) (ts : List Tick) : (w.having ts).recordsTo k x cuts = w.recordsTo k x cuts := by
  cases w <;> rfl

theorem Writer.recordsTo_congr {x y : Facility}
    (h : ∀ given, x.destination x.scopes given = y.destination y.scopes given) (k : Ref Sink)
    (cuts : List (List UInt8 × Level)) (w : Writer) : w.recordsTo k x cuts = w.recordsTo k y cuts := by
  cases w with
  | forwarder f => exact Forwarder.recordsTo_congr (h f.sink) k cuts
  | buffer b => rfl
  | guest g => rfl
  | discard => rfl
  | console => rfl

/-- What a memory sink holds after a writer has heard something. -/
theorem Writer.attend_remembers {k : Ref Sink} {rs : Array Record} {x : Facility}
    (hx : x.Remembers k rs) (w : Writer) (e : Errand) :
    (w.attend e (Heard.nothing, x)).2.2.Remembers k
      (rs ++ (w.recordsTo k x (w.attend e (Heard.nothing, x)).2.1.cuts).toArray) := by
  rcases w.forwarder_or_plain with ⟨f, rfl⟩ | hw
  · exact Forwarder.each_hear_remembers f f.pending e.ticks hx
  · have hsinks : (w.attend e (Heard.nothing, x)).2.2.sinks = x.sinks := by
      cases w with
      | forwarder f => exact absurd rfl (hw f)
      | buffer b =>
        obtain ⟨a, new, hrun, -⟩ := serve_buffer b e x
        simp only [attend, overhear, hrun, settle]
        split <;> rfl
      | guest g => cases e <;> rfl
      | discard => cases e <;> rfl
      | console => cases e <;> rfl
    have hcuts : (w.attend e (Heard.nothing, x)).2.1.cuts = [] := cuts_attend_of_plain hw e x
    rw [hcuts, recordsTo_nil]
    simpa using Facility.remembers_of_sinks hsinks hx

/-- What the accounts of a stream look at. -/
def Facility.holdings (x : Facility) :
    List (Ref Sink) × Option (Ref Sink) × Table Buffer × Table Guest × Table Sink :=
  (x.scopes, x.globalSink, x.buffers, x.guests, x.sinks)

theorem Facility.holdings_of_bearings {x y : Facility} (h : y.bearings = x.bearings)
    (hsinks : y.sinks = x.sinks) : y.holdings = x.holdings := by
  have hscopes : y.scopes = x.scopes := congrArg Bearings.scopes h
  have hglobal : y.globalSink = x.globalSink := congrArg Bearings.globalSink h
  have hbuffers : y.buffers = x.buffers := congrArg Bearings.buffers h
  have hguests : y.guests = x.guests := congrArg Bearings.guests h
  simp only [holdings, hscopes, hglobal, hbuffers, hguests, hsinks]

theorem Redirection.announce_holdings (f : Forwarder) :
    Act.Keeps Facility.holdings (announce f) := fun x =>
  Facility.holdings_of_bearings (announce_keeps f x) (Facility.carry_sinks _ x)

theorem Redirection.farewell_holdings (e : Except Fault Unit) :
    Act.Keeps Facility.holdings (farewell e) := by
  intro x
  refine Facility.holdings_of_bearings (farewell_keeps e x) ?_
  cases e with
  | ok _ => exact Facility.carry_sinks _ x
  | error e => exact ((Facility.carry_sinks _).bind fun _ => Facility.carry_sinks _) x

namespace Records

/-- The bytes that were told to the writers that stand for the same as one. -/
def bytesTo (v : Writer) (r : Records) : List UInt8 :=
  bytesOf ((r.log.filter fun e => r.arrival e.1 = v).map Prod.snd)

/-- The records that a sink gets of all that was cut. -/
def recordsTo (k : Ref Sink) (x : Facility) (r : Records) : List Record :=
  r.cuts.flatMap fun c => (r.arrival c.1).recordsTo k x [c.2]

theorem bytesTo_noting (v : Writer) (i : Nat) (h : Heard) (r : Records) :
    (r.noting i h).bytesTo v = r.bytesTo v ++ if r.arrival i = v then bytesOf h.ticks else [] := by
  have harrival (j : Nat) : (r.noting i h).arrival j = r.arrival j := rfl
  have hmap : (h.ticks.map (Prod.mk i)).map Prod.snd = h.ticks := by
    rw [List.map_map]
    exact List.map_id _
  simp only [bytesTo, harrival]
  rw [noting, List.filter_append, List.map_append, Forwarder.bytesOf_append]
  congr 1
  by_cases hv : r.arrival i = v
  · rw [if_pos hv, List.filter_eq_self.mpr (by simp [hv]), hmap]
  · rw [if_neg hv, List.filter_eq_nil_iff.mpr (by simp [hv])]
    rfl

theorem recordsTo_noting (k : Ref Sink) (x : Facility) (i : Nat) (h : Heard) (r : Records) :
    (r.noting i h).recordsTo k x = r.recordsTo k x ++ (r.arrival i).recordsTo k x h.cuts := by
  have harrival (j : Nat) : (r.noting i h).arrival j = r.arrival j := rfl
  simp only [recordsTo, harrival]
  rw [noting, List.flatMap_append]
  congr 1
  induction h.cuts with
  | nil => exact (Writer.recordsTo_nil k x _).symm
  | cons c cs ih =>
    rw [List.map_cons, List.flatMap_cons, ih, ← Writer.recordsTo_append, List.singleton_append]

theorem bytesTo_arriving (v : Writer) {r : Records} (hr : r.Written) (w : Writer) :
    (r.arriving w).bytesTo v = r.bytesTo v := by
  simp only [bytesTo]
  congr 2
  exact List.filter_congr fun e he => by rw [arrival_arriving (hr.log_lt e he)]

theorem recordsTo_arriving (k : Ref Sink) (x : Facility) {r : Records} (hr : r.Written) (w : Writer) :
    (r.arriving w).recordsTo k x = r.recordsTo k x := by
  simp only [recordsTo]
  exact List.flatMap_congr fun c hc => by rw [arrival_arriving (hr.cuts_lt c hc)]

/-- The records account for what has happened since a facility was in some state. -/
structure Accounted (start : Facility) (r : Records) (x : Facility) : Prop where
  routes : ∀ given, x.destination x.scopes given = start.destination start.scopes given
  stored : ∀ v bs, start.Stores v bs → x.Stores v (bs ++ r.bytesTo v)
  sinks : ∀ k rs, start.Remembers k rs →
    x.Remembers k (rs ++ (r.recordsTo k start).toArray)

variable {start x y : Facility} {r : Records}

theorem accounted_of_holdings (hx : r.Accounted start x) (h : y.holdings = x.holdings) :
    r.Accounted start y := by
  simp only [Facility.holdings, Prod.mk.injEq] at h
  obtain ⟨hscopes, hglobal, hbuffers, hguests, hsinks⟩ := h
  refine ⟨fun given => ?_,
    fun v bs hv => Facility.stores_of_same (hx.stored v bs hv) hbuffers hguests,
    fun k rs hk => Facility.remembers_of_sinks hsinks (hx.sinks k rs hk)⟩
  rw [← hx.routes given]
  simp only [Facility.destination, hscopes, hglobal]

theorem accounted_arriving (hr : r.Written) (hx : r.Accounted start x) (w : Writer) :
    (r.arriving w).Accounted start x where
  routes := hx.routes
  stored v bs hv := by
    rw [bytesTo_arriving v hr]
    exact hx.stored v bs hv
  sinks k rs hk := by
    rw [recordsTo_arriving k start hr]
    exact hx.sinks k rs hk

/-- Whatever a writer is asked for, the accounts stay right. -/
theorem accounted_tell (hx : r.Accounted start x) (i : Nat) (e : Errand) :
    (tell i e (r, x)).2.1.Accounted start (tell i e (r, x)).2.2 where
  routes given :=
    (Facility.destination_of_ground ((r.writer i).attend_ground e x) given).trans (hx.routes given)
  stored v bs hv := by
    have hgain := (r.writer i).stores_attend e (hx.stored v bs hv)
    have hstands : r.writer i = v ↔ r.arrival i = v :=
      Writer.having_eq_iff (Facility.isPlain_of_stores hv) _ _
    simpa only [tell, bytesTo_noting, hstands, List.append_assoc] using hgain
  sinks k rs hk := by
    have h := Writer.attend_remembers (hx.sinks k rs hk) (r.writer i) e
    have hwriter (cuts : List (List UInt8 × Level)) :
        (r.writer i).recordsTo k start cuts = (r.arrival i).recordsTo k start cuts :=
      Writer.recordsTo_having k start cuts _ _
    rw [Writer.recordsTo_congr hx.routes, hwriter] at h
    simp only [tell, recordsTo_noting]
    rw [← List.append_toArray, ← Array.append_assoc]
    exact h

/-! ### Telling one writer -/

/-- From one state to another no writer but one is told anything, that one no more than an errand, and
the accounts stay right. -/
structure Tells (i : Nat) (e : Errand) (p q : Records × Facility) : Prop where
  arrivals : q.1.arrivals = p.1.arrivals
  log : ∃ ts, q.1.log = p.1.log ++ ts.map (Prod.mk i) ∧ ts <+: e.ticks
  written : q.1.Written
  streams : q.2.streams = p.2.streams
  accounted : ∀ start, p.1.Accounted start p.2 → q.1.Accounted start q.2

variable {i : Nat} {e : Errand}

theorem Tells.told_of_ne {p q : Records × Facility} (h : Tells i e p q) {j : Nat} (hij : i ≠ j) :
    q.1.told j = p.1.told j := by
  obtain ⟨ts, hlog, -⟩ := h.log
  rw [told, hlog, entriesOf_append, entriesOf_map_of_ne hij, List.append_nil]
  rfl

theorem Tells.writer_of_ne {p q : Records × Facility} (h : Tells i e p q) {j : Nat} (hij : i ≠ j) :
    q.1.writer j = p.1.writer j := by
  rw [writer, writer, arrival, arrival, h.arrivals, h.told_of_ne hij]

/-- A remark afterwards changes nothing of that. -/
theorem Tells.remark {p : Records × Facility} (h : Tells i e p (r, x))
    (hstreams : y.streams = x.streams) (hholdings : y.holdings = x.holdings) :
    Tells i e p (r, y) :=
  { h with
    streams := hstreams.trans h.streams
    accounted := fun start hp => accounted_of_holdings (h.accounted start hp) hholdings }

theorem tells_tell (hr : r.Written) (hi : i < r.arrivals.length) (e : Errand) (x : Facility) :
    Tells i e (r, x) (tell i e (r, x)).2 where
  arrivals := rfl
  log := ⟨_, rfl, ((r.writer i).ticks_attend e x).1⟩
  written := written_tell hr hi e x
  streams := Facility.streams_of_ground ((r.writer i).attend_ground e x)
  accounted _ hp := accounted_tell hp i e

/-- A writer is flushed for the last time, and there is a remark on that. -/
def retire (i : Nat) : Act (Records × Facility) Unit :=
  tell i .flush >>= fun a => Act.beside (Redirection.farewell (a.map fun _ => ()))

/-- A writer is given up: a forwarder is flushed for the last time. -/
def discard (i : Nat) : Act (Records × Facility) Unit := fun (r, x) =>
  match r.writer i with
  | .forwarder _ => Act.map (fun _ => ()) (tell i .flush) (r, x)
  | _ => (.done (), (r, x))

/-- The end of a redirection retires the writer that it displaces. -/
theorem retire_eq (i : Nat) (r : Records) (x : Facility) :
    (retire i (r, x)).1 = (Redirection.retire (r.writer i) x).1 ∧
      (retire i (r, x)).2.2 = (Redirection.retire (r.writer i) x).2 := by
  simp only [Redirection.retire_eq, retire, tell, Act.bind_run]
  rcases (r.writer i).attend .flush (Heard.nothing, x) with ⟨_ | _ | _, h, y⟩ <;> exact ⟨rfl, rfl⟩

theorem discard_eq (i : Nat) (r : Records) (x : Facility) :
    (discard i (r, x)).1 = (Writer.giveUp (r.writer i) x).1 ∧
      (discard i (r, x)).2.2 = (Writer.giveUp (r.writer i) x).2 := by
  rcases (r.writer i).forwarder_or_plain with ⟨f, hf⟩ | hw
  · simp only [discard, hf, Writer.giveUp_forwarder, Act.map, tell]
    exact ⟨trivial, trivial⟩
  · rw [Writer.giveUp_of_plain hw]
    simp only [discard]
    split
    · next f hf => exact absurd hf (hw f)
    · exact ⟨rfl, rfl⟩

theorem retire_records (i : Nat) (r : Records) (x : Facility) :
    (retire i (r, x)).2.1 = (tell i .flush (r, x)).2.1 := by
  simp only [retire, Act.bind_run]
  rcases tell i .flush (r, x) with ⟨_ | _ | _, r', y⟩ <;> rfl

theorem tells_retire (hr : r.Written) (hi : i < r.arrivals.length) (x : Facility) :
    Tells i .flush (r, x) (retire i (r, x)).2 := by
  have htell := tells_tell hr hi .flush x
  simp only [retire, Act.bind_run]
  generalize tell i .flush (r, x) = q at htell ⊢
  rcases q with ⟨a | _ | _, r', y⟩
  · exact htell.remark (congrArg Facility.Bearings.streams (Redirection.farewell_keeps _ y))
      (Redirection.farewell_holdings _ y)
  · exact htell
  · exact htell

theorem tells_discard (hr : r.Written) (hi : i < r.arrivals.length) (x : Facility) :
    Tells i .flush (r, x) (discard i (r, x)).2 := by
  simp only [discard]
  split
  · exact tells_tell hr hi .flush x
  · exact ⟨rfl, ⟨[], by simp, List.nil_prefix⟩, hr, rfl, fun _ h => h⟩

/-- A forwarder hears a flush before it is gone. -/
theorem flushed_retire (r : Records) (i : Nat) (x : Facility) : (retire i (r, x)).2.1.Flushed i := by
  rw [retire_records]
  exact flushed_tell r i x

theorem flushed_discard (r : Records) (i : Nat) (x : Facility) : (discard i (r, x)).2.1.Flushed i := by
  simp only [discard]
  split
  · exact flushed_tell r i x
  · next hw =>
    intro f hf
    refine absurd ?_ (hw (f.holding (since f.pending (r.told i))))
    rw [writer, arrival_of_some hf]
    rfl

theorem flushed_of_tells {p q : Records × Facility} (h : Tells i e p q) {j : Nat} (hij : i ≠ j)
    (hj : p.1.Flushed j) : q.1.Flushed j := by
  intro f hf
  rw [h.told_of_ne hij]
  exact hj f (by rwa [← h.arrivals])

end Records

end Logbook
