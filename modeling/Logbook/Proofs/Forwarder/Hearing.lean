/-
# A forwarder hears one tick at a time

A forwarder may be called with any number of bytes at once, and its sink may raise a message in the
middle of them. Told tick by tick, the same happens: each byte and each flush is heard on its own, the
ones that cut hand the segment over that they end, and after the first that does not return nothing
more is heard (`Forwarder.hear`). So it is always told what a forwarder has taken, and what is pending
is what is held of that.

Nothing is asked of the sink here, other than in the run of a forwarder whose sink returns. So what is
said holds of any outlet that does not look into the forwarder's buffer, and in particular of the one
that a facility is.

Key definitions: `Forwarder.segments`, `Forwarder.Heard`, `Forwarder.hear`, `Forwarder.hearBy`.
Key theorems: `Forwarder.segments_append`, `Forwarder.write_eq_hearBy`, `Forwarder.ticks_each_hearBy`,
`Forwarder.hearBy_segments`, `Forwarder.hear_eq_hearBy`.
-/
import Logbook.Proofs.Facility.Writing
import Logbook.Proofs.Forwarder.Run

namespace Logbook

variable {σ : Type}

/-- An outlet takes no notice of the bytes that a forwarder holds. -/
def Outlet.Steady (o : Outlet σ) : Prop :=
  ∀ f held, o.level (f.holding held) = o.level f ∧ o.report (f.holding held) = o.report f

theorem Facility.steady_outlet : Facility.outlet.Steady := fun _ _ => ⟨rfl, rfl⟩

namespace Forwarder

/-! ### Segments -/

/-- The segment that a tick ends, if it cuts. -/
def Tick.cut? (held : List UInt8) : Tick → Option (List UInt8)
  | .byte b => if b = newline then some held else none
  | .flush => if held = [] then none else some held
  | .level _ => none

/-- The segments of a history, in order. -/
def segments (held : List UInt8) : List Tick → List (List UInt8)
  | [] => []
  | t :: ts => (t.cut? held).toList ++ segments (since held [t]) ts

/-- A tick that can end a segment. -/
def Tick.Cuts (t : Tick) : Prop := t = .byte newline ∨ t = .flush

theorem Tick.cuts_of_cut? {held segment : List UInt8} {t : Tick} (h : t.cut? held = some segment) :
    t.Cuts := by
  cases t with
  | byte b =>
    by_cases hb : b = newline
    · exact .inl (by rw [hb])
    · simp [Tick.cut?, hb] at h
  | flush => exact .inr rfl
  | level l => simp [Tick.cut?] at h

/-- After a tick that can end a segment nothing is held. -/
theorem since_of_cuts {t : Tick} (ht : t.Cuts) (held : List UInt8) (ts : List Tick) :
    since held (ts ++ [t]) = [] := by
  rw [since_append]
  rcases ht with rfl | rfl
  · exact if_pos rfl
  · rfl

theorem since_cons (held : List UInt8) (t : Tick) (ts : List Tick) :
    since held (t :: ts) = since (since held [t]) ts := since_append [t] ts held

theorem segments_append : ∀ (ts us : List Tick) (held : List UInt8),
    segments held (ts ++ us) = segments held ts ++ segments (since held ts) us
  | [], _, _ => rfl
  | t :: ts, us, held => by
    rw [List.cons_append, segments, segments, segments_append ts us, since_cons held t ts,
      List.append_assoc]

/-! ### Hearing -/

/-- What a forwarder has heard, and the segments that it cut, each with the level of its registry at
the moment of the cut. -/
structure Heard where
  ticks : List Tick
  cuts : List (List UInt8 × Level)

/-- Nothing heard yet. -/
def Heard.nothing : Heard := ⟨[], []⟩

/-- A forwarder that held some bytes hears a tick. A segment that it ends is handed over if the gate
is open; the tick is heard also if that does not return. -/
def hear (f : Forwarder) (held : List UInt8) (t : Tick) : Act (Heard × Facility) Unit :=
  fun (h, x) =>
    match t.cut? (since held h.ticks) with
    | none => (.done (), (⟨h.ticks ++ [t], h.cuts⟩, x))
    | some segment =>
      let r := (Deed.cut segment (x.levelFor f)).perform f x
      (r.1, (⟨h.ticks ++ [t], h.cuts ++ [(segment, x.levelFor f)]⟩, r.2))

/-- A forwarder hears a tick, with any outlet to hand segments to. -/
def hearBy (o : Outlet σ) (f : Forwarder) (held : List UInt8) (t : Tick) : Act (Heard × σ) Unit :=
  fun (h, s) =>
    match t.cut? (since held h.ticks) with
    | none => (.done (), (⟨h.ticks ++ [t], h.cuts⟩, s))
    | some segment =>
      let r := emit o f segment s
      (r.1, (⟨h.ticks ++ [t], h.cuts ++ [(segment, o.level f s)]⟩, r.2))

theorem hear_eq_hearBy (f : Forwarder) (held : List UInt8) :
    hear f held = hearBy Facility.outlet f held := by
  funext t ⟨h, x⟩
  simp only [hear, hearBy]
  cases t.cut? (since held h.ticks) with
  | none => rfl
  | some segment => simp only [emit_eq_perform (f := f) (x := x) rfl]; rfl

theorem hear_keeps (f : Forwarder) (held : List UInt8) (t : Tick) :
    Act.Keeps bearingsBeside (hear f held t) := by
  rintro ⟨h, x⟩
  simp only [hear]
  split
  · rfl
  · exact perform_cut_keeps f _ _ x

section AnyOutlet

variable (o : Outlet σ) (f : Forwarder) (held : List UInt8)

theorem ticks_hearBy (t : Tick) (h : Heard) (s : σ) :
    (hearBy o f held t (h, s)).2.1.ticks = h.ticks ++ [t] := by
  simp only [hearBy]
  split <;> rfl

/-- A tick that does not cut is heard without further ado. -/
theorem cuts_of_not_done {t : Tick} {h : Heard} {s : σ}
    (hr : (hearBy o f held t (h, s)).1 ≠ .done ()) : t.Cuts := by
  simp only [hearBy] at hr
  cases hcut : t.cut? (since held h.ticks) with
  | none => simp [hcut] at hr
  | some segment => exact Tick.cuts_of_cut? hcut

/-- What is heard of some ticks is a beginning of them: all of them if hearing them returns, and else
one that ends with a cut. -/
theorem ticks_each_hearBy : ∀ (ts : List Tick) (h : Heard) (s : σ),
    ∃ us, (Act.each (hearBy o f held) ts (h, s)).2.1.ticks = h.ticks ++ us ∧ us <+: ts ∧
      ((Act.each (hearBy o f held) ts (h, s)).1 = .done () → us = ts) ∧
      ((Act.each (hearBy o f held) ts (h, s)).1 ≠ .done () → ∃ vs t, us = vs ++ [t] ∧ t.Cuts)
  | [], h, s => ⟨[], by simp [Act.each, Act.pure], List.nil_prefix, fun _ => rfl,
      fun hr => absurd rfl hr⟩
  | t :: ts, h, s => by
    have hone := ticks_hearBy o f held t h s
    have hcuts := cuts_of_not_done o f held (t := t) (h := h) (s := s)
    rw [Act.each_cons, Act.bind_run]
    generalize hearBy o f held t (h, s) = r at hone hcuts ⊢
    rcases r with ⟨_ | _ | _, h', s'⟩
    · obtain ⟨us, hus, hpre, hall, hend⟩ := ticks_each_hearBy ts h' s'
      refine ⟨t :: us, by rw [hus, show h'.ticks = _ from hone]; simp,
        List.cons_prefix_cons.mpr ⟨rfl, hpre⟩, fun hr => by rw [hall hr], fun hr => ?_⟩
      obtain ⟨vs, u, rfl, hu⟩ := hend hr
      exact ⟨t :: vs, u, rfl, hu⟩
    · exact ⟨[t], hone, by simp, fun hr => by simp at hr, fun _ => ⟨[], t, rfl, hcuts (by simp)⟩⟩
    · exact ⟨[t], hone, by simp, fun hr => by simp at hr, fun _ => ⟨[], t, rfl, hcuts (by simp)⟩⟩

/-- What is cut are the segments of what is heard. -/
theorem hearBy_segments (t : Tick) {h : Heard} (hh : h.cuts.map Prod.fst = segments held h.ticks)
    (s : σ) : (hearBy o f held t (h, s)).2.1.cuts.map Prod.fst =
      segments held (hearBy o f held t (h, s)).2.1.ticks := by
  rw [ticks_hearBy, segments_append, ← hh]
  simp only [hearBy, segments]
  cases t.cut? (since held h.ticks) <;> simp

/-- Cutting many bytes at once is hearing them one by one; where a line is not taken, nothing is
held afterwards. -/
theorem each_hearBy_eq_emit : ∀ (bs : List UInt8) (h : Heard) (s : σ),
    ∃ h', Act.each (hearBy o f held) (bs.map .byte) (h, s) =
        ((Act.each (emit o f) (cutLines (since held h.ticks) bs).1 s).1,
          (h', (Act.each (emit o f) (cutLines (since held h.ticks) bs).1 s).2)) ∧
      since held h'.ticks =
        if (Act.each (emit o f) (cutLines (since held h.ticks) bs).1 s).1 = .done ()
        then (cutLines (since held h.ticks) bs).2 else []
  | [], h, s => ⟨h, by simp [Act.each, Act.pure], by simp [Act.each, Act.pure]⟩
  | b :: bs, h, s => by
    have hsince : since held (h.ticks ++ [.byte b]) =
        if b = newline then [] else since held h.ticks ++ [b] := by
      rw [since_append]
      by_cases hb : b = newline <;> simp [since, hb]
    rw [List.map_cons, Act.each_cons, cutLines_cons]
    by_cases hb : b = newline
    · rw [if_pos hb] at hsince ⊢
      have hhear : hearBy o f held (.byte b) (h, s) =
          ((emit o f (since held h.ticks) s).1,
            (⟨h.ticks ++ [.byte b], h.cuts ++ [(since held h.ticks, o.level f s)]⟩,
              (emit o f (since held h.ticks) s).2)) := by
        simp only [hearBy, Tick.cut?, hb, if_true]
      rw [Act.bind_run, hhear, Act.each_cons, Act.bind_run]
      generalize emit o f (since held h.ticks) s = r
      rcases r with ⟨_ | _ | _, s'⟩
      · obtain ⟨h', hrun, hheld⟩ := each_hearBy_eq_emit bs
          ⟨h.ticks ++ [.byte b], h.cuts ++ [(since held h.ticks, o.level f s)]⟩ s'
        rw [hsince] at hrun hheld
        exact ⟨h', hrun, hheld⟩
      · exact ⟨_, rfl, hsince⟩
      · exact ⟨_, rfl, hsince⟩
    · rw [if_neg hb] at hsince ⊢
      have hhear : hearBy o f held (.byte b) (h, s) =
          (.done (), (⟨h.ticks ++ [.byte b], h.cuts⟩, s)) := by
        simp only [hearBy, Tick.cut?, hb, if_false]
      obtain ⟨h', hrun, hheld⟩ := each_hearBy_eq_emit bs ⟨h.ticks ++ [.byte b], h.cuts⟩ s
      rw [hsince] at hrun hheld
      rw [Act.bind_of_done _ hhear]
      exact ⟨h', hrun, hheld⟩

section Steady

variable {o} (ho : o.Steady)
include ho

/-- The pending bytes play no part in what is done with a line. -/
theorem emit_holding (line : List UInt8) : emit o (f.holding held) line = emit o f line := by
  have hopen (l : Level) : (f.holding held).isOpen l = f.isOpen l := rfl
  have hrecord : (f.holding held).record line = f.record line := rfl
  funext s
  simp only [emit, hopen, hrecord, (ho f held).1, (ho f held).2]

/-- A write is heard byte by byte. -/
theorem write_eq_hearBy (bs : List UInt8) (h : Heard) (s : σ) :
    write o bs (f.holding (since held h.ticks), s) =
      let r := Act.each (hearBy o f held) (bs.map .byte) (h, s)
      (r.1.map fun _ => bs.length, (f.holding (since held r.2.1.ticks), r.2.2)) := by
  obtain ⟨h', hrun, hheld⟩ := each_hearBy_eq_emit o f held bs h s
  simp only [hrun, hheld, write, pending_holding, funext (emit_holding f (since held h.ticks) ho)]
  rcases Act.each (emit o f) (cutLines (since held h.ticks) bs).1 s with ⟨_ | _ | _, s'⟩ <;> rfl

/-- A flush is heard as one tick. -/
theorem flush_eq_hearBy (h : Heard) (s : σ) :
    flush o (f.holding (since held h.ticks), s) =
      let r := Act.each (hearBy o f held) [.flush] (h, s)
      (r.1, (f.holding (since held r.2.1.ticks), r.2.2)) := by
  have hsince : since held (h.ticks ++ [.flush]) = [] := since_of_cuts (.inr rfl) held h.ticks
  simp only [Act.each_singleton, ticks_hearBy, hsince]
  by_cases hp : since held h.ticks = []
  · rw [hp]
    simp only [hearBy, Tick.cut?, hp, if_true]
    rfl
  · have hne : (since held h.ticks).isEmpty = false := by simpa using hp
    simp only [flush, pending_holding, hne, Bool.false_eq_true, if_false, emit_holding f _ ho, hearBy,
      Tick.cut?, hp]
    rfl

end Steady

end AnyOutlet

/-! ### Hearing in a facility -/

section InFacility

variable (f : Forwarder) (held : List UInt8)

theorem ticks_hear (t : Tick) (h : Heard) (x : Facility) :
    (hear f held t (h, x)).2.1.ticks = h.ticks ++ [t] := by
  rw [hear_eq_hearBy]
  exact ticks_hearBy Facility.outlet f held t h x

/-- What is heard of some ticks is a beginning of them, and all of them if hearing them returns. -/
theorem ticks_each_hear (ts : List Tick) (h : Heard) (x : Facility) :
    ∃ us, (Act.each (hear f held) ts (h, x)).2.1.ticks = h.ticks ++ us ∧
      us <+: ts ∧ ((Act.each (hear f held) ts (h, x)).1 = .done () → us = ts) := by
  rw [hear_eq_hearBy]
  obtain ⟨us, hus, hpre, hall, -⟩ := ticks_each_hearBy Facility.outlet f held ts h x
  exact ⟨us, hus, hpre, hall⟩

theorem heard_segments (ts : List Tick) (x : Facility) :
    let h := (Act.each (hear f held) ts (Heard.nothing, x)).2.1
    h.cuts.map Prod.fst = segments held h.ticks := by
  rw [hear_eq_hearBy]
  exact Act.each_preserves
    (P := fun p : Heard × Facility => p.1.cuts.map Prod.fst = segments held p.1.ticks)
    (fun t p hp => hearBy_segments Facility.outlet f held t hp p.2) ts rfl

theorem flush_eq_hear (x : Facility) :
    flush Facility.outlet (f.holding held, x) =
      let r := Act.each (hear f held) [.flush] (Heard.nothing, x)
      (r.1, (f.holding (since held r.2.1.ticks), r.2.2)) := by
  rw [hear_eq_hearBy]
  exact flush_eq_hearBy f held Facility.steady_outlet Heard.nothing x

end InFacility

end Forwarder

end Logbook
