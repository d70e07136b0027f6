/-
# What a program does with a stream

A program that redirects a stream holds the redirections, and through them the writers that they will
put back; when it replaces the writer behind the stream it is handed back the one that stood there, and
holds that as well. It can write to the stream and to the writers that it holds, put these behind the
stream, give them up, and end redirections in any order and as often as it likes.

Giving a writer up after its last flush does nothing, so a redirection's end amounts to that flush and
the remarks on it (`Redirection.retire_eq`).

Key definitions: `Hands`, `Move`, `Move.run`, `Move.finish`.
Key theorems: `Redirection.retire_eq`, `Move.run_reset`, `Move.run_giveUp`, `Move.guards_run`,
`Move.stream_finish`.
-/
import Mathlib.Data.List.Induction
import Logbook.Proofs.Act.Attempts
import Logbook.Proofs.Stream.Errands

namespace Logbook

open Forwarder (Heard)

/-! ### Ends -/

theorem Writer.giveUp_forwarder (f : Forwarder) (x : Facility) :
    Writer.giveUp (.forwarder f) x =
      let r := (Writer.forwarder f).attend .flush (Heard.nothing, x)
      (r.1.map fun _ => (), r.2.2) := by
  have hflush := Forwarder.flush_eq_hear f f.pending x
  rw [Forwarder.holding_pending] at hflush
  simp only [giveUp, hflush, attend, Act.map, Errand.ticks_flush]
  rcases Act.each (Forwarder.hear f f.pending) [.flush] (Heard.nothing, x) with ⟨_ | _ | _, p⟩ <;> rfl

theorem Writer.giveUp_of_plain {w : Writer} (hw : w.IsPlain) (x : Facility) :
    Writer.giveUp w x = (.done (), x) := by
  cases w with
  | forwarder f => exact absurd rfl (hw f)
  | buffer b => rfl
  | guest g => rfl
  | discard => rfl
  | console => rfl

/-- A writer that has been flushed can be given up without a trace, however the flush ended. -/
theorem Writer.giveUp_after_flush (w : Writer) (x y : Facility) :
    Writer.giveUp (Writer.flush (w, x)).2.1 y = (.done (), y) := by
  have hserve : (Writer.flush (w, x)).2.1 =
      w.having (w.attend .flush (Heard.nothing, x)).2.1.ticks :=
    congrArg (fun r => r.2.1) (serve_eq_attend w .flush x)
  rw [hserve]
  rcases w.forwarder_or_plain with ⟨f, rfl⟩ | hw
  · rw [ticks_attend_flush]
    rfl
  · rw [having_of_plain hw, giveUp_of_plain hw]

/-- The end of a redirection tells the writer that it displaces one flush, and remarks on that. -/
theorem Redirection.retire_eq (w : Writer) (x : Facility) :
    retire w x =
      let r := (w.attend .flush >>= fun a => Act.beside (farewell (a.map fun _ => ())))
        (Heard.nothing, x)
      (r.1, r.2.2) := by
  have hserve := w.serve_eq_attend .flush x
  have hidle := w.giveUp_after_flush x
  simp only [Writer.serve, Act.map] at hserve
  simp only [retire, Act.bind_run]
  generalize w.attend .flush (Heard.nothing, x) = r at hserve ⊢
  generalize Writer.flush (w, x) = q at hserve hidle ⊢
  obtain ⟨o, w', y⟩ := q
  obtain ⟨o', h, y'⟩ := r
  simp only [Prod.mk.injEq] at hserve
  obtain ⟨rfl, -, rfl⟩ := hserve
  simp only [Act.ensure_of_idle _ hidle]
  rcases o with (_ | _) | m | _ <;> rfl

/-! ### Moves -/

/-- What a program holds of a stream. -/
structure Hands (ω : Type) where
  /-- For each redirection, in the order in which they began, the writer that it will put back; none
  once it has ended. -/
  guards : List (Option ω)
  /-- The writers that were handed back, none where one is no longer held. -/
  kept : List (Option ω)

namespace Hands

variable {ω χ : Type}

/-- Nothing is held. -/
def empty : Hands ω := ⟨[], []⟩

/-- One more redirection. -/
def guarding (g : Option ω) (h : Hands ω) : Hands ω := { h with guards := h.guards ++ [g] }

/-- One more writer that was handed back. -/
def keeping (w : ω) (h : Hands ω) : Hands ω := { h with kept := h.kept ++ [some w] }

/-- Another writer, or none, for a redirection. -/
def setGuard (i : Nat) (g : Option ω) (h : Hands ω) : Hands ω := { h with guards := h.guards.set i g }

/-- Another writer, or none, in the place of one that was handed back. -/
def setKept (j : Nat) (w : Option ω) (h : Hands ω) : Hands ω := { h with kept := h.kept.set j w }

@[simp] theorem guards_guarding (g : Option ω) (h : Hands ω) :
    (h.guarding g).guards = h.guards ++ [g] := rfl

@[simp] theorem kept_guarding (g : Option ω) (h : Hands ω) : (h.guarding g).kept = h.kept := rfl

@[simp] theorem guards_keeping (w : ω) (h : Hands ω) : (h.keeping w).guards = h.guards := rfl

@[simp] theorem kept_keeping (w : ω) (h : Hands ω) : (h.keeping w).kept = h.kept ++ [some w] := rfl

@[simp] theorem guards_setGuard (i : Nat) (g : Option ω) (h : Hands ω) :
    (h.setGuard i g).guards = h.guards.set i g := rfl

@[simp] theorem kept_setGuard (i : Nat) (g : Option ω) (h : Hands ω) :
    (h.setGuard i g).kept = h.kept := rfl

@[simp] theorem guards_setKept (j : Nat) (w : Option ω) (h : Hands ω) :
    (h.setKept j w).guards = h.guards := rfl

@[simp] theorem kept_setKept (j : Nat) (w : Option ω) (h : Hands ω) :
    (h.setKept j w).kept = h.kept.set j w := rfl

/-- The same with other writers. -/
def map (f : ω → χ) (h : Hands ω) : Hands χ :=
  ⟨h.guards.map (Option.map f), h.kept.map (Option.map f)⟩

end Hands

/-- What a program can do with a stream. -/
inductive Move where
  /-- Redirects it into a forwarder. -/
  | redirect (f : Forwarder)
  /-- Puts a new writer behind it, and keeps the one that stood there. -/
  | replace (w : Writer)
  /-- Puts a kept writer behind it, and keeps the one that stood there in its place. -/
  | restore (j : Nat)
  /-- Gives a kept writer up. -/
  | release (j : Nat)
  /-- Asks the stream for something. -/
  | ask (e : Errand)
  /-- Asks a kept writer for something. -/
  | askKept (j : Nat) (e : Errand)
  /-- Ends a redirection. -/
  | reset (i : Nat)
  /-- Gives a redirection up. -/
  | giveUp (i : Nat)
  /-- Changes the level of a registry. -/
  | setLevel (g : Option (Ref Registry)) (l : Level)

namespace Move

/-- Makes a move on a stream; asking says how many bytes were taken. -/
def run (s : Ref Writer) : Move → Act (Hands Writer × Facility) (Except Fault Nat)
  | .redirect f => do
    let r ← Act.beside (Redirection.start s f)
    Act.modify fun p => (p.1.guarding r.previous, p.2)
    pure (.ok 0)
  | .replace w => do
    let old ← Act.beside (Facility.replaceWriter s w)
    Act.modify fun p => (p.1.keeping old, p.2)
    pure (.ok 0)
  | .restore j => do
    let p ← Act.read
    match p.1.kept.getD j none with
    | none => pure (.ok 0)
    | some w =>
      let old ← Act.beside (Facility.replaceWriter s w)
      Act.modify fun p => (p.1.setKept j (some old), p.2)
      pure (.ok 0)
  | .release j => fun (h, x) =>
    match h.kept.getD j none with
    | none => (.done (.ok 0), (h, x))
    | some w =>
      let r := Writer.giveUp w x
      (r.1.map fun _ => .ok 0, (h.setKept j none, r.2))
  | .ask e => Act.beside (Facility.onStream s (Writer.serve e))
  | .askKept j e => fun (h, x) =>
    match h.kept.getD j none with
    | none => (.done (.ok 0), (h, x))
    | some w =>
      let r := Writer.serve e (w, x)
      (r.1, (h.setKept j (some r.2.1), r.2.2))
  | .reset i => fun (h, x) =>
    let r := Redirection.reset (⟨s, h.guards.getD i none⟩, x)
    (r.1.map fun _ => .ok 0, (h.setGuard i r.2.1.previous, r.2.2))
  | .giveUp i => fun (h, x) =>
    let r := Redirection.giveUp ⟨s, h.guards.getD i none⟩ x
    (r.1.map fun _ => .ok 0, (h.setGuard i none, r.2))
  | .setLevel g l => fun (h, x) => (.done (.ok 0), (h, x.updateRegistry g (Registry.setLevel l)))

/-- What the end of a redirection does: if it has not ended, it puts its writer back, and the one that
it displaces is retired. -/
def finish (s : Ref Writer) (i : Nat) : Act (Hands Writer × Facility) (Except Fault Nat) :=
  fun (h, x) =>
    match h.guards.getD i none with
    | none => (.done (.ok 0), (h, x))
    | some w =>
      let r := Redirection.retire (x.streams.get s) (x.putWriter s w)
      (r.1.map fun _ => .ok 0, (h.setGuard i none, r.2))

theorem finish_of_none (s : Ref Writer) {h : Hands Writer} {i : Nat}
    (hi : h.guards.getD i none = none) (x : Facility) :
    finish s i (h, x) = (.done (.ok 0), (h, x)) := by
  simp only [finish, hi]

theorem finish_of_some (s : Ref Writer) {h : Hands Writer} {i : Nat} {w : Writer}
    (hi : h.guards.getD i none = some w) (x : Facility) :
    finish s i (h, x) =
      let r := Redirection.retire (x.streams.get s) (x.putWriter s w)
      (r.1.map fun _ => .ok 0, (h.setGuard i none, r.2)) := by
  simp only [finish, hi]

theorem setGuard_none_of_ended {ω : Type} {h : Hands ω} {i : Nat}
    (hi : h.guards.getD i none = none) : h.setGuard i none = h := by
  have hset : h.guards.set i none = h.guards := by
    by_cases hlt : i < h.guards.length
    · have hget : h.guards[i] = none := by simpa [List.getD_eq_getElem?_getD, hlt] using hi
      rw [← hget, List.set_getElem_self]
    · exact List.set_eq_of_length_le (by omega)
  rw [Hands.setGuard, hset]

theorem run_reset (s : Ref Writer) (i : Nat) : run s (.reset i) = finish s i := by
  funext ⟨h, x⟩
  cases hg : h.guards.getD i none with
  | none => simp only [run, finish, hg, Redirection.reset, setGuard_none_of_ended hg]; rfl
  | some w => simp only [run, finish, hg, Redirection.reset]

theorem run_giveUp (s : Ref Writer) (i : Nat) : run s (.giveUp i) = finish s i := by
  funext ⟨h, x⟩
  cases hg : h.guards.getD i none with
  | none =>
    simp only [run, finish, hg, Redirection.giveUp, Redirection.reset, setGuard_none_of_ended hg]; rfl
  | some w => simp only [run, finish, hg, Redirection.giveUp, Redirection.reset]

/-- A move tries to end a redirection. -/
def Ends (m : Move) (i : Nat) : Prop := m = .reset i ∨ m = .giveUp i

theorem run_of_ends (s : Ref Writer) {m : Move} {i : Nat} (hm : m.Ends i) : run s m = finish s i := by
  rcases hm with rfl | rfl
  · exact run_reset s i
  · exact run_giveUp s i

/-- A redirection begins with a remark; where that raises a message, the forwarder is given up. -/
theorem run_redirect (s : Ref Writer) (f : Forwarder) (h : Hands Writer) (x : Facility) :
    run s (.redirect f) (h, x) =
      match Redirection.announce f x with
      | (.done (), y) =>
        (.done (.ok 0), (h.guarding (some (y.streams.get s)), y.putWriter s (.forwarder f)))
      | (.raised m, y) =>
        ((Outcome.raised m).afterCleanup (Writer.giveUp (.forwarder f) y).1,
          (h, (Writer.giveUp (.forwarder f) y).2))
      | (.aborted, y) => (.aborted, (h, y)) := by
  simp only [run, Redirection.start, Act.bind_run, Act.beside, Act.attempt]
  rcases Redirection.announce f x with ⟨_ | m | _, y⟩
  · rfl
  · simp only [Act.ensure_run, Act.raise]
    rcases Writer.giveUp (.forwarder f) y with ⟨_ | _ | _, z⟩ <;> rfl
  · rfl

theorem run_restore (s : Ref Writer) (j : Nat) (h : Hands Writer) (x : Facility) :
    run s (.restore j) (h, x) =
      match h.kept.getD j none with
      | none => (.done (.ok 0), (h, x))
      | some w => (.done (.ok 0), (h.setKept j (some (x.streams.get s)), x.putWriter s w)) := by
  simp only [run, Act.read_bind]
  cases h.kept.getD j none <;> rfl

/-! ### What moves do to the redirections -/

/-- A redirection keeps what it will put back until it ends, and then it has ended for good. -/
theorem guards_run (s : Ref Writer) (m : Move) {h : Hands Writer} {x : Facility} {i : Nat}
    {g : Option Writer} (hi : h.guards[i]? = some g) :
    (run s m (h, x)).2.1.guards[i]? = some g ∨ (run s m (h, x)).2.1.guards[i]? = some none := by
  obtain ⟨hlt, -⟩ := List.getElem?_eq_some_iff.mp hi
  have hfinish (k : Nat) : (finish s k (h, x)).2.1.guards[i]? = some g ∨
      (finish s k (h, x)).2.1.guards[i]? = some none := by
    simp only [finish]
    split
    · exact .inl hi
    · by_cases hk : k = i
      · subst hk
        exact .inr (by simp [hlt])
      · exact .inl (by simpa [List.getElem?_set_ne hk] using hi)
  cases m with
  | redirect f =>
    rw [run_redirect]
    rcases Redirection.announce f x with ⟨_ | _ | _, y⟩
    · exact .inl (by simpa [List.getElem?_append_left hlt] using hi)
    · exact .inl hi
    · exact .inl hi
  | reset k => rw [run_reset]; exact hfinish k
  | giveUp k => rw [run_giveUp]; exact hfinish k
  | replace w => exact .inl hi
  | restore j => rw [run_restore]; split <;> exact .inl hi
  | release j => simp only [run]; split <;> exact .inl hi
  | ask e => exact .inl hi
  | askKept j e => simp only [run]; split <;> exact .inl hi
  | setLevel g l => exact .inl hi

/-- A redirection that has not ended has just begun, or had not ended before. -/
theorem guard_before (s : Ref Writer) (m : Move) {h : Hands Writer} {x : Facility} {i : Nat}
    {w : Writer} (hi : (run s m (h, x)).2.1.guards[i]? = some (some w)) :
    h.guards[i]? = some (some w) ∨
      (∃ f, m = .redirect f) ∧ h.guards.length = i ∧ x.streams.get s = w := by
  have hfinish {k : Nat} (hk : (finish s k (h, x)).2.1.guards[i]? = some (some w)) :
      h.guards[i]? = some (some w) := by
    simp only [finish] at hk
    split at hk
    · exact hk
    · by_cases hki : k = i
      · subst hki
        simp [List.getElem?_set] at hk
      · simpa [List.getElem?_set_ne hki] using hk
  cases m with
  | redirect f =>
    rw [run_redirect] at hi
    have hkeep : (Redirection.announce f x).2.streams = x.streams :=
      congrArg Facility.Bearings.streams (Redirection.announce_keeps f x)
    generalize Redirection.announce f x = r at hi hkeep
    rcases r with ⟨_ | _ | _, y⟩
    · rcases Nat.lt_or_ge i h.guards.length with hlt | hge
      · exact .inl (by simpa [List.getElem?_append_left hlt] using hi)
      · obtain ⟨hlt, -⟩ := List.getElem?_eq_some_iff.mp hi
        have hlen : h.guards.length = i := by
          have hlt' : i < h.guards.length + 1 := by simpa using hlt
          omega
        subst hlen
        have hw : y.streams.get s = w := by simpa using hi
        exact .inr ⟨⟨f, rfl⟩, rfl, by rw [← hkeep, hw]⟩
    · exact .inl hi
    · exact .inl hi
  | reset k => rw [run_reset] at hi; exact .inl (hfinish hi)
  | giveUp k => rw [run_giveUp] at hi; exact .inl (hfinish hi)
  | replace w => exact .inl hi
  | restore j => rw [run_restore] at hi; split at hi <;> exact .inl hi
  | release j => simp only [run] at hi; split at hi <;> exact .inl hi
  | ask e => exact .inl hi
  | askKept j e => simp only [run] at hi; split at hi <;> exact .inl hi
  | setLevel g l => exact .inl hi

/-- Makes moves one after the other, from the start, when nothing is held. -/
def runAll (s : Ref Writer) (moves : List Move) (x : Facility) :
    Outcome (List (Except String (Except Fault Nat))) × (Hands Writer × Facility) :=
  Act.attempts (run s) moves (Hands.empty, x)

/-- What a redirection will put back is the writer that stood behind the stream when it began. -/
theorem guard_began (s : Ref Writer) (x : Facility) (moves : List Move) {i : Nat} {w : Writer}
    (hi : (runAll s moves x).2.1.guards[i]? = some (some w)) :
    ∃ past f rest, moves = past ++ .redirect f :: rest ∧
      (runAll s past x).2.1.guards.length = i ∧ (runAll s past x).2.2.streams.get s = w := by
  induction moves using List.reverseRecOn with
  | nil => simp [runAll, Act.attempts, Hands.empty] at hi
  | append_singleton moves m ih =>
    have hearlier (h : (runAll s moves x).2.1.guards[i]? = some (some w)) :
        ∃ past f rest, moves ++ [m] = past ++ .redirect f :: rest ∧
          (runAll s past x).2.1.guards.length = i ∧ (runAll s past x).2.2.streams.get s = w := by
      obtain ⟨past, f, rest, rfl, hlen, hw⟩ := ih h
      exact ⟨past, f, rest ++ [m], by simp, hlen, hw⟩
    rcases Act.attempts_concat (run s) moves m (Hands.empty, x) with hsame | hstep
    · exact hearlier (by rwa [runAll, hsame] at hi)
    · rw [runAll, hstep] at hi
      rcases guard_before s m hi with hbefore | ⟨⟨f, rfl⟩, hlen, hw⟩
      · exact hearlier hbefore
      · exact ⟨moves, f, [], rfl, hlen, hw⟩

/-- A redirection that has ended stays so, whatever happens then. -/
theorem ended_later (s : Ref Writer) (x : Facility) (moves later : List Move) {i : Nat}
    (hi : (runAll s moves x).2.1.guards[i]? = some none) :
    (runAll s (moves ++ later) x).2.1.guards[i]? = some none := by
  by_cases h : (runAll s moves x).1 = .aborted
  · rw [runAll, Act.attempts_append_of_aborted later moves h]
    exact hi
  · rw [runAll, Act.attempts_append later moves h]
    exact Act.attempts_preserves
      (P := fun p : Hands Writer × Facility => p.1.guards[i]? = some none)
      (fun m p hp => (guards_run s m (h := p.1) (x := p.2) hp).elim id id) later hi

/-- A redirection that has ended ends no more: a later try changes nothing. -/
theorem finish_of_ended (s : Ref Writer) {h : Hands Writer} {i : Nat} (hi : h.guards[i]? = some none)
    (x : Facility) : finish s i (h, x) = (.done (.ok 0), (h, x)) :=
  finish_of_none s (by simp [List.getD_eq_getElem?_getD, hi]) x

end Move

namespace Facility

theorem streams_putWriter (s : Ref Writer) (w : Writer) (x : Facility) :
    (x.putWriter s w).streams = x.streams.put s w := rfl

theorem get_putWriter {s : Ref Writer} {x : Facility} (hs : s.index < x.streams.items.size)
    (w : Writer) : (x.putWriter s w).streams.get s = w := Table.get_put hs w

theorem putWriter_putWriter (s : Ref Writer) (v w : Writer) (x : Facility) :
    (x.putWriter s v).putWriter s w = x.putWriter s w := by
  simp only [putWriter, Table.put_put]

theorem streams_of_ground {x y : Facility} (h : x.ground = y.ground) : x.streams = y.streams :=
  congrArg Bearings.streams h

end Facility

namespace Move

/-- However the end of a redirection goes, the writer that was displaced is behind the stream again. -/
theorem stream_finish {s : Ref Writer} {h : Hands Writer} {x : Facility} {i : Nat} {w : Writer}
    (hs : s.index < x.streams.items.size) (hi : h.guards[i]? = some (some w)) :
    (finish s i (h, x)).2.2.streams.get s = w ∧
      (finish s i (h, x)).2.1.guards[i]? = some none := by
  obtain ⟨hlt, -⟩ := List.getElem?_eq_some_iff.mp hi
  have hg : h.guards.getD i none = some w := by simp [List.getD_eq_getElem?_getD, hi]
  rw [finish_of_some s hg]
  refine ⟨?_, by simp [hlt]⟩
  rw [Facility.streams_of_ground (Redirection.retire_keeps _ _)]
  exact Facility.get_putWriter hs w

end Move

end Logbook
