/-
# What a writer hears

Whatever stands behind a stream is asked to write some bytes, to write all of them or to pass on what it
holds back. What it hears of an errand is what it took: all of it if it is a forwarder whose sink
returns, up to and with the cut that did not return otherwise, as many bytes as it says if it is anything
else. A writer that fails heard nothing, but for a guest that was to write all: it does not say how much it
took, and heard what it has got more than before. So a writer at any moment is the one that it was at
first, told all that it heard since (`Writer.having`), and running an errand is hearing it
(`Writer.serve_eq_attend`).

Key definitions: `Errand`, `Forwarder.serve`, `Forwarder.attend`, `Writer.serve`, `Writer.having`,
`Writer.attend`, `Writer.FallsShort`, `Facility.Stores`.
Key theorems: `Forwarder.serve_follows_attend`, `Writer.serve_eq_attend`, `Writer.ticks_attend`,
`Writer.cuts_attend`, `Writer.stores_attend`.
-/
import Logbook.Proofs.Act.Attempts
import Logbook.Proofs.Device.Buffer
import Logbook.Proofs.Facility.Writing
import Logbook.Proofs.Forwarder.Hearing

namespace Logbook

open Forwarder (Heard Tick since)

/-- What a writer can be asked to do. -/
inductive Errand where
  | write (bs : List UInt8)
  | writeAll (bs : List UInt8)
  | flush

namespace Errand

/-- The number of bytes that an errand brings. -/
def size : Errand → Nat
  | .write bs | .writeAll bs => bs.length
  | .flush => 0

/-- What an errand tells a writer that takes some number of its bytes. -/
def upTo (n : Nat) : Errand → List Tick
  | .write bs | .writeAll bs => (bs.take n).map .byte
  | .flush => [.flush]

/-- What an errand tells a writer that takes some number of its bytes and does not come to an end with it. -/
def partly (n : Nat) : Errand → List Tick
  | .write bs | .writeAll bs => (bs.take n).map .byte
  | .flush => []

/-- What an errand tells a writer that takes all of it. -/
def ticks (e : Errand) : List Tick := e.upTo e.size

/-- What an errand told a writer that answered. -/
def taken (e : Errand) : Except Fault Nat → List Tick
  | .ok n => e.upTo n
  | .error _ => []

@[simp] theorem ticks_write (bs : List UInt8) : ticks (.write bs) = bs.map .byte := by
  simp [ticks, upTo, size]

@[simp] theorem ticks_writeAll (bs : List UInt8) : ticks (.writeAll bs) = bs.map .byte := by
  simp [ticks, upTo, size]

@[simp] theorem ticks_flush : ticks .flush = [.flush] := rfl

theorem upTo_prefix_ticks (e : Errand) (n : Nat) : e.upTo n <+: e.ticks := by
  cases e with
  | write bs => simpa [upTo] using (List.take_prefix n bs).map Tick.byte
  | writeAll bs => simpa [upTo] using (List.take_prefix n bs).map Tick.byte
  | flush => exact List.prefix_rfl

theorem partly_prefix_ticks (e : Errand) (n : Nat) : e.partly n <+: e.ticks := by
  cases e with
  | write bs => exact upTo_prefix_ticks (.write bs) n
  | writeAll bs => exact upTo_prefix_ticks (.writeAll bs) n
  | flush => exact List.nil_prefix

theorem partly_zero (e : Errand) : e.partly 0 = [] := by
  cases e <;> rfl

end Errand

/-- The bytes of a history. -/
def Forwarder.bytesOf (ts : List Tick) : List UInt8 :=
  ts.filterMap fun t =>
    match t with
    | .byte b => some b
    | _ => none

open Forwarder (bytesOf)

@[simp] theorem Forwarder.bytesOf_nil : bytesOf [] = [] := rfl

theorem Forwarder.bytesOf_bytes (bs : List UInt8) : bytesOf (bs.map .byte) = bs := by
  induction bs with
  | nil => rfl
  | cons b bs ih => exact congrArg (List.cons b) ih

theorem Forwarder.bytesOf_append (ts us : List Tick) :
    bytesOf (ts ++ us) = bytesOf ts ++ bytesOf us := by
  simp [bytesOf]

namespace Guest

/-- A guest runs an errand, and says how many bytes it took. -/
def run : Errand → Guest → Outcome (Except Fault Nat) × Guest
  | .write bs => write bs
  | .writeAll bs => writeAll bs
  | .flush => flush

/-- A guest keeps a beginning of what it is offered, and if it answers, it says how much that is. -/
theorem exists_taken (bs : List UInt8) (portion : Answer → Nat) (g : Guest) :
    ∃ n, (g.call bs portion).2.taken.toList = g.taken.toList ++ bs.take n ∧
      (g.call bs portion).2.taken.size - g.taken.size = n ∧
      ∀ m, (g.call bs portion).1 = .done (.ok m) → m = n := by
  have htaken : (g.call bs portion).2.taken.toList = g.taken.toList ++ bs.take (portion (g.next bs.length)) := by
    simp [call]
  refine ⟨(bs.take (portion (g.next bs.length))).length, ?_, ?_, fun m hm => ?_⟩
  · rw [htaken, List.length_take, ← List.take_eq_take_min]
  · rw [← Array.length_toList, htaken, List.length_append, Array.length_toList, Nat.add_sub_cancel_left]
  · generalize hanswer : g.next bs.length = answer at hm
    simp only [call, hanswer] at hm
    obtain ⟨room, (_ | _) | _ | _⟩ := answer
    · cases hm
    · cases hm
      rfl
    · cases hm
    · cases hm

/-- A guest that fails to write some bytes took none of them. -/
theorem taken_of_failed {bs : List UInt8} {g : Guest} {f : Fault}
    (h : (g.run (.write bs)).1 = .done (.error f)) : (g.run (.write bs)).2.taken = g.taken := by
  simp only [run, write, call] at h ⊢
  rcases hend : (g.next bs.length).ending with (_ | _) | _ | _
  · simp
  · rw [hend] at h
    cases h
  · rw [hend] at h
    cases h
  · rw [hend] at h
    cases h

/-- A guest that wrote all took all. -/
theorem answer_writeAll (bs : List UInt8) (g : Guest) :
    ((g.writeAll bs).1.map (Except.map fun _ => ())).map (Except.map fun _ => bs.length) =
      (g.writeAll bs).1 := by
  simp only [writeAll, call]
  rcases (g.next bs.length).ending with (_ | _) | _ | _
  · rfl
  · rw [List.take_length]
    rfl
  · rfl
  · rfl

theorem answer_flush (g : Guest) :
    (g.flush.1.map (Except.map fun _ => ())).map (Except.map fun _ => 0) = g.flush.1 := by
  simp only [flush, call]
  rcases (g.next 0).ending with (_ | _) | _ | _ <;> rfl

end Guest

namespace Forwarder

variable {σ : Type}

/-- A forwarder runs an errand. It takes all that it is given at once, so that to write all of some bytes
is to write them. -/
def serve (o : Outlet σ) : Errand → Act (Forwarder × σ) (Except Fault Nat)
  | .write bs => Act.map .ok (write o bs)
  | .writeAll bs => Act.map (fun _ => .ok bs.length) (write o bs)
  | .flush => Act.map (fun _ => .ok 0) (flush o)

/-- A forwarder hears an errand tick by tick. -/
def attend (o : Outlet σ) (f : Forwarder) (e : Errand) : Act (Heard × σ) (Except Fault Nat) :=
  Act.map (fun _ => .ok e.size) (Act.each (hearBy o f f.pending) e.ticks)

/-- The forwarder that has heard something, beside the state. -/
def afterwards (f : Forwarder) (p : Heard × σ) : Forwarder × σ :=
  (f.holding (since f.pending p.1.ticks), p.2)

/-- Running an errand is hearing it. -/
theorem serve_follows_attend {o : Outlet σ} (ho : o.Steady) (f : Forwarder) (e : Errand)
    (p : Heard × σ) : Act.Follows (afterwards f) (serve o e) (attend o f e) p := by
  obtain ⟨h, s⟩ := p
  have hwrite (bs : List UInt8) := write_eq_hearBy f f.pending ho bs h s
  have hflush := flush_eq_hearBy f f.pending ho h s
  cases e with
  | write bs =>
    simp only [Act.Follows, afterwards, serve, attend, Act.map, hwrite, Errand.ticks_write, Errand.size]
    rcases Act.each (hearBy o f f.pending) (bs.map .byte) (h, s) with ⟨_ | _ | _, q⟩ <;> rfl
  | writeAll bs =>
    simp only [Act.Follows, afterwards, serve, attend, Act.map, hwrite, Errand.ticks_writeAll, Errand.size]
    rcases Act.each (hearBy o f f.pending) (bs.map .byte) (h, s) with ⟨_ | _ | _, q⟩ <;> rfl
  | flush =>
    simp only [Act.Follows, afterwards, serve, attend, Act.map, hflush, Errand.ticks_flush, Errand.size]

end Forwarder

namespace Writer

/-- A writer runs an errand, and says how many bytes it took. -/
def serve : Errand → Act (Writer × Facility) (Except Fault Nat)
  | .write bs => write bs
  | .writeAll bs => Act.map (Except.map fun _ => bs.length) (writeAll bs)
  | .flush => Act.map (Except.map fun _ => 0) flush

/-- A writer that has been told something. -/
def having (ts : List Tick) : Writer → Writer
  | .forwarder f => .forwarder (f.holding (since f.pending ts))
  | w => w

/-- How many bytes a guest has got between two moments. -/
def gain (w : Writer) (x y : Facility) : Nat :=
  match w with
  | .guest g => (y.guests.get g).taken.size - (x.guests.get g).taken.size
  | _ => 0

/-- What a writer other than a forwarder hears of an errand that ended in some way: what it says that it
took, and where it does not say, what it has got. -/
def overheard (w : Writer) (e : Errand) (x : Facility) (r : Outcome (Except Fault Nat) × Facility) :
    List Tick :=
  match r.1 with
  | .done (.ok n) => e.upTo n
  | _ => e.partly (w.gain x r.2)

/-- A writer runs an errand, and what it heard of it is told from its answer and from what it has got. -/
def overhear (w : Writer) (e : Errand) : Act (Heard × Facility) (Except Fault Nat) := fun (h, x) =>
  let r := serve e (w, x)
  (r.1, (⟨h.ticks ++ overheard w e x (r.1, r.2.2), h.cuts⟩, r.2.2))

/-- A writer hears an errand. -/
def attend (e : Errand) : Writer → Act (Heard × Facility) (Except Fault Nat)
  | .forwarder f => Act.map (fun _ => .ok e.size) (Act.each (Forwarder.hear f f.pending) e.ticks)
  | .buffer b => overhear (.buffer b) e
  | .guest g => overhear (.guest g) e
  | .discard => overhear .discard e
  | .console => overhear .console e

/-- All writers but forwarders. -/
def IsPlain (w : Writer) : Prop := ∀ f, w ≠ .forwarder f

theorem attend_of_plain {w : Writer} (hw : w.IsPlain) (e : Errand) : w.attend e = w.overhear e := by
  cases w with
  | forwarder f => exact absurd rfl (hw f)
  | buffer b => rfl
  | guest g => rfl
  | discard => rfl
  | console => rfl

theorem having_of_plain {w : Writer} (hw : w.IsPlain) (ts : List Tick) : w.having ts = w := by
  cases w with
  | forwarder f => exact absurd rfl (hw f)
  | buffer b => rfl
  | guest g => rfl
  | discard => rfl
  | console => rfl

theorem forwarder_or_plain (w : Writer) : (∃ f, w = .forwarder f) ∨ w.IsPlain := by
  cases w with
  | forwarder f => exact .inl ⟨f, rfl⟩
  | buffer b => exact .inr (by simp [IsPlain])
  | guest g => exact .inr (by simp [IsPlain])
  | discard => exact .inr (by simp [IsPlain])
  | console => exact .inr (by simp [IsPlain])

@[simp] theorem having_nil (w : Writer) : w.having [] = w := by
  cases w <;> rfl

theorem having_append (ts us : List Tick) (w : Writer) :
    w.having (ts ++ us) = (w.having ts).having us := by
  cases w with
  | forwarder f => simp only [having, Forwarder.since_append]; rfl
  | buffer b => rfl
  | guest g => rfl
  | discard => rfl
  | console => rfl

/-- What a writer has been told does not make another kind of writer of it. -/
theorem having_eq_iff {v : Writer} (hv : v.IsPlain) (w : Writer) (ts : List Tick) :
    w.having ts = v ↔ w = v := by
  rcases w.forwarder_or_plain with ⟨f, rfl⟩ | hw
  · exact ⟨fun h => absurd h.symm (hv _), fun h => absurd h.symm (hv f)⟩
  · rw [having_of_plain hw]

/-! ### Running an errand is hearing it -/

theorem serve_eq_onForwarder (f : Forwarder) (e : Errand) (x : Facility) :
    serve e (.forwarder f, x) = onForwarder f (Forwarder.serve Facility.outlet e) id x := by
  cases e with
  | write bs =>
    simp only [serve, write, onForwarder, Forwarder.serve, Act.map]
    rcases Forwarder.write Facility.outlet bs (f, x) with ⟨_ | _ | _, p⟩ <;> rfl
  | writeAll bs =>
    by_cases hbs : bs = []
    · subst hbs
      simp only [serve, writeAll, onForwarder, Forwarder.serve, Forwarder.write, Act.map, cutLines_nil]
      rfl
    · simp only [serve, writeAll, List.isEmpty_iff, hbs, if_false, onForwarder, Forwarder.serve, Act.map]
      rcases Forwarder.write Facility.outlet bs (f, x) with ⟨_ | _ | _, p⟩ <;> rfl
  | flush =>
    simp only [serve, flush, onForwarder, Forwarder.serve, Act.map]
    rcases Forwarder.flush Facility.outlet (f, x) with ⟨_ | _ | _, p⟩ <;> rfl

theorem serve_forwarder (f : Forwarder) (e : Errand) (x : Facility) :
    serve e (.forwarder f, x) =
      let r := Act.each (Forwarder.hear f f.pending) e.ticks (Heard.nothing, x)
      (r.1.map fun _ => .ok e.size,
        (.forwarder (f.holding (since f.pending r.2.1.ticks)), r.2.2)) := by
  have hheard := Forwarder.serve_follows_attend Facility.steady_outlet f e (Heard.nothing, x)
  have hfirst : Forwarder.afterwards f (Heard.nothing, x) = (f, x) := rfl
  rw [Act.Follows, hfirst] at hheard
  rw [serve_eq_onForwarder, Forwarder.hear_eq_hearBy]
  simp only [onForwarder, hheard, Forwarder.attend, Forwarder.afterwards, Act.map]
  rcases Act.each (Forwarder.hearBy Facility.outlet f f.pending) e.ticks (Heard.nothing, x) with
    ⟨_ | _ | _, p⟩ <;> rfl

/-- A writer other than a forwarder is the same after an errand. -/
theorem serve_of_plain {w : Writer} (hw : w.IsPlain) (e : Errand) (x : Facility) :
    ∃ o y, serve e (w, x) = (o, (w, y)) := by
  cases w with
  | forwarder f => exact absurd rfl (hw f)
  | buffer b => cases e <;> exact ⟨_, _, rfl⟩
  | guest g => cases e <;> exact ⟨_, _, rfl⟩
  | discard => cases e <;> exact ⟨_, _, rfl⟩
  | console => cases e <;> exact ⟨_, _, rfl⟩

theorem serve_guest (g : Ref Guest) (e : Errand) (x : Facility) :
    serve e (.guest g, x) =
      let r := (x.guests.get g).run e
      (r.1, (.guest g, { x with guests := x.guests.put g r.2 })) := by
  cases e with
  | write bs =>
    have hsame : ((x.guests.get g).write bs).1.map (Except.map id) = ((x.guests.get g).write bs).1 := by
      rcases ((x.guests.get g).write bs).1 with (_ | _) | _ | _ <;> rfl
    simp only [serve, write, onGuest, Guest.run, hsame]
  | writeAll bs => simp only [serve, writeAll, onGuest, Guest.run, Act.map, Guest.answer_writeAll]
  | flush => simp only [serve, flush, onGuest, Guest.run, Act.map, Guest.answer_flush]

/-- Running an errand is hearing it. -/
theorem serve_eq_attend (w : Writer) (e : Errand) (x : Facility) :
    serve e (w, x) =
      let r := w.attend e (Heard.nothing, x)
      (r.1, (w.having r.2.1.ticks, r.2.2)) := by
  rcases w.forwarder_or_plain with ⟨f, rfl⟩ | hw
  · exact serve_forwarder f e x
  · obtain ⟨a, y, hy⟩ := serve_of_plain hw e x
    simp only [attend_of_plain hw, having_of_plain hw, overhear, hy]

/-! ### What is heard -/

/-- A guest that fails to write all of some bytes may have taken a part of them. -/
def FallsShort (w : Writer) (e : Errand) (a : Except Fault Nat) : Prop :=
  ∃ g bs f, w = .guest g ∧ e = .writeAll bs ∧ a = .error f

/-- Any other writer that fails has got nothing. -/
theorem partly_gain_of_failed {w : Writer} {e : Errand} {x y : Facility} {f : Fault}
    (h : serve e (w, x) = (.done (.error f), (w, y))) :
    e.partly (w.gain x y) = [] ∨ w.FallsShort e (.error f) := by
  cases w with
  | guest g =>
    cases e with
    | write bs =>
      rw [serve_guest] at h
      obtain ⟨hend, hwriter⟩ := Prod.mk.inj h
      obtain rfl := (Prod.mk.inj hwriter).2
      refine .inl ?_
      dsimp only [gain]
      rcases x.guests.get_put_cases g ((x.guests.get g).run (.write bs)).2 with hput | hput
      · rw [hput, Guest.taken_of_failed hend, Nat.sub_self, Errand.partly_zero]
      · rw [hput, Nat.sub_self, Errand.partly_zero]
    | writeAll bs => exact .inr ⟨g, bs, f, rfl, rfl, rfl⟩
    | flush => exact .inl rfl
  | forwarder _ | buffer _ | discard | console => exact .inl e.partly_zero

/-- What is heard is a beginning of the errand, and an answer says which one, unless the writer fell short
of it. -/
theorem ticks_attend (w : Writer) (e : Errand) (x : Facility) :
    (w.attend e (Heard.nothing, x)).2.1.ticks <+: e.ticks ∧
      ∀ a, (w.attend e (Heard.nothing, x)).1 = .done a →
        (w.attend e (Heard.nothing, x)).2.1.ticks = e.taken a ∨ w.FallsShort e a := by
  rcases w.forwarder_or_plain with ⟨f, rfl⟩ | hw
  · obtain ⟨us, hus, hpre, hall⟩ :=
      Forwarder.ticks_each_hear f f.pending e.ticks Heard.nothing x
    simp only [attend, Act.map]
    generalize Act.each (Forwarder.hear f f.pending) e.ticks (Heard.nothing, x) = r at hus hall ⊢
    rw [hus]
    refine ⟨hpre, fun a ha => ?_⟩
    rcases r with ⟨_ | _ | _, p⟩
    · cases ha
      exact .inl (hall rfl)
    · simp [Outcome.map] at ha
    · simp [Outcome.map] at ha
  · obtain ⟨o, y, hy⟩ := serve_of_plain hw e x
    simp only [attend_of_plain hw, overhear, hy, Heard.nothing, List.nil_append]
    refine ⟨?_, fun a ha => ?_⟩
    · rcases o with (_ | n) | _ | _
      · exact e.partly_prefix_ticks _
      · exact e.upTo_prefix_ticks n
      · exact e.partly_prefix_ticks _
      · exact e.partly_prefix_ticks _
    · subst ha
      cases a with
      | ok n => exact .inl rfl
      | error f => exact partly_gain_of_failed hy

/-- What a forwarder cuts are the segments of what it hears. -/
theorem cuts_attend (f : Forwarder) (e : Errand) (x : Facility) :
    let h := ((Writer.forwarder f).attend e (Heard.nothing, x)).2.1
    h.cuts.map Prod.fst = Forwarder.segments f.pending h.ticks :=
  Forwarder.heard_segments f f.pending e.ticks x

/-- Nobody but a forwarder cuts anything. -/
theorem cuts_attend_of_plain {w : Writer} (hw : w.IsPlain) (e : Errand) (x : Facility) :
    (w.attend e (Heard.nothing, x)).2.1.cuts = [] := by
  rw [attend_of_plain hw]
  rfl

/-- A forwarder hears a flush also if the sink does not return. -/
theorem ticks_attend_flush (f : Forwarder) (x : Facility) :
    ((Writer.forwarder f).attend .flush (Heard.nothing, x)).2.1.ticks = [.flush] := by
  simp only [attend, Act.map, Errand.ticks, Errand.upTo, Act.each_singleton, Forwarder.ticks_hear]
  rfl

/-! ### What happens around a writer -/

theorem serve_keeps (e : Errand) : Act.Keeps groundBeside (serve e) := by
  cases e with
  | write bs => exact write_keeps bs
  | writeAll bs => exact writeAll_keeps bs
  | flush => exact flush_keeps

theorem attend_ground (w : Writer) (e : Errand) (x : Facility) :
    (w.attend e (Heard.nothing, x)).2.2.ground = x.ground := by
  have h : (serve e (w, x)).2.2.ground = x.ground := serve_keeps e (w, x)
  rwa [serve_eq_attend] at h

end Writer

/-! ### What is stored -/

/-- There is a buffer or a guest for which a writer stands, and this is what it took. -/
def Facility.Stores (v : Writer) (bs : List UInt8) (x : Facility) : Prop :=
  match v with
  | .buffer b => b.index < x.buffers.items.size ∧ (x.buffers.get b).content.toList = bs
  | .guest g => g.index < x.guests.items.size ∧ (x.guests.get g).taken.toList = bs
  | .forwarder _ | .discard | .console => False

instance (v : Writer) (bs : List UInt8) (x : Facility) : Decidable (x.Stores v bs) := by
  cases v <;> unfold Facility.Stores <;> infer_instance

theorem Facility.isPlain_of_stores {x : Facility} {v : Writer} {bs : List UInt8} (hv : x.Stores v bs) :
    v.IsPlain := by
  rintro f rfl
  exact hv

theorem Facility.stores_of_same {x y : Facility} {v : Writer} {bs : List UInt8} (hx : x.Stores v bs)
    (hbuffers : y.buffers = x.buffers) (hguests : y.guests = x.guests) : y.Stores v bs := by
  unfold Stores
  rw [hbuffers, hguests]
  exact hx

namespace Writer

/-- An errand leaves in a buffer what it told the writer that stands for the buffer. -/
theorem serve_buffer (b : Ref Buffer) (e : Errand) (x : Facility) :
    ∃ a new, serve e (.buffer b, x) = (.done a, (.buffer b, settle b new x)) ∧
      new.content.toList = (x.buffers.get b).content.toList ++ bytesOf (e.taken a) := by
  generalize hold : x.buffers.get b = old
  cases e with
  | write bs =>
    refine ⟨(old.write bs).1, (old.write bs).2, by simp only [serve, write, hold], ?_⟩
    by_cases hf : old.failsWrites = true
    · simp [Buffer.write_of_fails hf, Errand.taken, bytesOf]
    · rw [Buffer.write_eq (by simpa using hf), Buffer.toList_content_keeping, Errand.taken,
        Errand.upTo, Forwarder.bytesOf_bytes, ← (old.portion_eq_take bs).1]
  | writeAll bs =>
    refine ⟨(Buffer.device.writeAll bs old).1.map fun _ => bs.length,
      (Buffer.device.writeAll bs old).2, by simp only [serve, writeAll, Act.map, hold]; rfl, ?_⟩
    by_cases hf : old.failsWrites = true ∧ bs ≠ []
    · simp [Buffer.writeAll_of_fails hf.1 hf.2, Errand.taken, bytesOf, Except.map]
    · have hall : Buffer.device.writeAll bs old = (.ok (), old.keeping bs) := by
        by_cases hbs : bs = []
        · rw [hbs, Device.writeAll, Buffer.keeping_nil]
        · exact Buffer.writeAll_eq bs (by simpa [hbs] using hf)
      simp [hall, Buffer.toList_content_keeping, Errand.taken, Errand.upTo, Forwarder.bytesOf_bytes,
        Except.map]
  | flush =>
    refine ⟨old.flush.1.map fun _ => 0, old.flush.2,
      by simp only [serve, flush, Act.map, hold]; rfl, ?_⟩
    have hbytes : bytesOf (Errand.flush.taken (old.flush.1.map fun _ => 0)) = [] := by
      cases old.flush.1 <;> rfl
    rw [hbytes, List.append_nil, Buffer.flush]
    split <;> rfl

/-- A guest has what it is said to have heard. -/
theorem guest_has {g : Ref Guest} {x : Facility} (hg : g.index < x.guests.items.size) (e : Errand) :
    let r := (x.guests.get g).run e
    r.2.taken.toList = (x.guests.get g).taken.toList ++
      bytesOf (overheard (.guest g) e x (r.1, { x with guests := x.guests.put g r.2 })) := by
  generalize hold : x.guests.get g = old
  have hgain (new : Guest) : gain (.guest g) x { x with guests := x.guests.put g new } =
      new.taken.size - old.taken.size := by
    simp only [gain, Table.get_put hg, hold]
  -- whether the guest says it or not, what it kept is what it has got
  have hcalled {bs : List UInt8} {portion : Guest.Answer → Nat}
      (hup : ∀ n, bytesOf (e.upTo n) = bs.take n) (hpart : ∀ n, bytesOf (e.partly n) = bs.take n) :
      (old.call bs portion).2.taken.toList = old.taken.toList ++ bytesOf (overheard (.guest g) e x
        ((old.call bs portion).1, { x with guests := x.guests.put g (old.call bs portion).2 })) := by
    obtain ⟨n, htaken, hsize, hanswer⟩ := old.exists_taken bs portion
    rw [htaken]
    unfold overheard
    split
    · next m hm => rw [hanswer m hm, hup]
    · rw [hgain, hsize, hpart]
  cases e with
  | write bs => exact hcalled (fun _ => Forwarder.bytesOf_bytes _) fun _ => Forwarder.bytesOf_bytes _
  | writeAll bs => exact hcalled (fun _ => Forwarder.bytesOf_bytes _) fun _ => Forwarder.bytesOf_bytes _
  | flush => exact hcalled (fun _ => List.take_nil.symm) fun _ => List.take_nil.symm

/-- A buffer or a guest gains what the writer that stands for it hears, and nothing from any other
writer. -/
theorem stores_attend (w : Writer) (e : Errand) {v : Writer} {bs : List UInt8} {x : Facility}
    (hv : x.Stores v bs) :
    (w.attend e (Heard.nothing, x)).2.2.Stores v
      (bs ++ if w = v then bytesOf (w.attend e (Heard.nothing, x)).2.1.ticks else []) := by
  have hserve := serve_eq_attend w e x
  have hkept (hw : w ≠ v) (h : (serve e (w, x)).2.2.Stores v bs) :
      (w.attend e (Heard.nothing, x)).2.2.Stores v
        (bs ++ if w = v then bytesOf (w.attend e (Heard.nothing, x)).2.1.ticks else []) := by
    rw [if_neg hw, List.append_nil]
    rwa [hserve] at h
  cases w with
  | forwarder f =>
    have hkeep : (serve e (.forwarder f, x)).2.2.bearings = x.bearings := by
      rw [serve_forwarder]
      exact Act.each_preserves (P := fun p : Heard × Facility => p.2.bearings = x.bearings)
        (fun t p hp => (Forwarder.hear_keeps f f.pending t p).trans hp) e.ticks rfl
    refine hkept (by rintro rfl; exact hv) (Facility.stores_of_same hv ?_ ?_)
    · exact congrArg Facility.Bearings.buffers hkeep
    · exact congrArg Facility.Bearings.guests hkeep
  | buffer b' =>
    obtain ⟨a, new, hrun, hnew⟩ := serve_buffer b' e x
    have hbuffers : (settle b' new x).buffers = x.buffers.put b' new := by
      simp only [settle]
      split <;> rfl
    have hguests : (settle b' new x).guests = x.guests := by
      simp only [settle]
      split <;> rfl
    obtain ⟨hdone, hwriter⟩ := Prod.mk.inj (hserve.symm.trans hrun)
    have hfacility := (Prod.mk.inj hwriter).2
    have hwhole : ¬ (Writer.buffer b').FallsShort e a := by
      rintro ⟨g, -, -, hguest, -⟩
      cases hguest
    have hticks := (((Writer.buffer b').ticks_attend e x).2 a hdone).resolve_right hwhole
    by_cases hw : Writer.buffer b' = v
    · subst hw
      rw [if_pos rfl, hticks, hfacility]
      refine ⟨by rw [hbuffers, Table.size_put]; exact hv.1, ?_⟩
      rw [hbuffers, Table.get_put hv.1, hnew, hv.2]
    · refine hkept hw ?_
      rw [hrun]
      cases v with
      | buffer b =>
        have hbb : b' ≠ b := fun h => hw (by rw [h])
        exact ⟨by rw [hbuffers, Table.size_put]; exact hv.1,
          by rw [hbuffers, Table.get_put_of_ne _ hbb]; exact hv.2⟩
      | guest g => exact ⟨by rw [hguests]; exact hv.1, by rw [hguests]; exact hv.2⟩
      | forwarder f => exact hv
      | discard => exact hv
      | console => exact hv
  | guest g' =>
    have hrun := serve_guest g' e x
    dsimp only at hrun
    obtain ⟨hend, hwriter⟩ := Prod.mk.inj (hserve.symm.trans hrun)
    have hfacility := (Prod.mk.inj hwriter).2
    have hticks : ((Writer.guest g').attend e (Heard.nothing, x)).2.1.ticks = overheard (.guest g') e x
        (((x.guests.get g').run e).1, { x with guests := x.guests.put g' ((x.guests.get g').run e).2 }) := by
      simp only [attend, overhear, hrun, Heard.nothing, List.nil_append]
    by_cases hw : Writer.guest g' = v
    · subst hw
      rw [if_pos rfl, hticks, hfacility]
      refine ⟨by rw [Table.size_put]; exact hv.1, ?_⟩
      rw [Table.get_put hv.1, guest_has hv.1 e, hv.2]
    · refine hkept hw ?_
      rw [hrun]
      cases v with
      | guest g =>
        have hgg : g' ≠ g := fun h => hw (by rw [h])
        exact ⟨by rw [Table.size_put]; exact hv.1, by rw [Table.get_put_of_ne _ hgg]; exact hv.2⟩
      | buffer b => exact hv
      | forwarder f => exact hv
      | discard => exact hv
      | console => exact hv
  | discard => exact hkept (by rintro rfl; exact hv) (by cases e <;> exact hv)
  | console => exact hkept (by rintro rfl; exact hv) (by cases e <;> exact hv)

end Writer

end Logbook
