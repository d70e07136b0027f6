/-
# A clock shows the exact time, cut once

A clock cuts each step to what a word of 64 bits can hold, and the sum of its time and the step again.
Steps only move time forward, so what was cut on the way would have been cut in the end: the clock shows
the time that was set last and all steps since then, added up exactly and cut once. The delta cycles
since time was last moved are counted in a word that wraps around (`reading_after`).

Key definitions: `Clock.after`, `Clock.exactTime`, `Clock.countedSince`, `Clock.Shows`.
Key theorems: `Clock.exactTime_append`, `Clock.Shows.change`, `Clock.reading_after`.
-/
import Mathlib.Algebra.BigOperators.Group.List.Basic
import Mathlib.Algebra.Ring.Nat
import Mathlib.Data.List.DropRight
import Logbook.Scenario.Play

namespace Logbook.Clock

open Scenario (ClockAction)

/-- A clock that started at the start of time, after what was done with it. -/
def after (history : List ClockAction) : Clock := history.foldl (fun k a => a.change k) .start

/-! ### The exact time -/

/-- The time that an action sets. -/
def timeSet : ClockAction → Option Nat
  | .set t => some t
  | _ => none

/-- The step that an action moves time forward by. -/
def stepOf : ClockAction → Option Nat
  | .advance t => some t
  | _ => none

/-- The number of delta cycles that an action counts. -/
def deltasOf : ClockAction → Nat
  | .tick n => n
  | _ => 0

/-- Whether an action sets the time or moves it forward, be it by nothing. -/
def moves (a : ClockAction) : Bool := (timeSet a).isSome || (stepOf a).isSome

/-- The steps that actions move time forward by, added up. -/
def distance (calls : List ClockAction) : Nat := (calls.filterMap stepOf).sum

/-- The time that was set last and all steps since then, added up. -/
def exactTime (history : List ClockAction) : Nat :=
  (history.filterMap timeSet).getLastD 0 + distance (history.rtakeWhile fun a => (timeSet a).isNone)

/-- The number of delta cycles counted since time was last set or moved. -/
def countedSince (history : List ClockAction) : Nat :=
  ((history.rtakeWhile fun a => !moves a).map deltasOf).sum

theorem distance_cons (a : ClockAction) (calls : List ClockAction) :
    distance (a :: calls) = (stepOf a).getD 0 + distance calls := by
  rw [distance, List.filterMap_cons]
  cases stepOf a with
  | none => exact (Nat.zero_add _).symm
  | some t => exact List.sum_cons

theorem distance_append (calls calls' : List ClockAction) :
    distance (calls ++ calls') = distance calls + distance calls' := by
  rw [distance, List.filterMap_append, List.sum_append, distance, distance]

theorem exactTime_of_set (history : List ClockAction) {a : ClockAction} {t : Nat} (h : timeSet a = some t) :
    exactTime (history ++ [a]) = t := by
  have hlater : (history ++ [a]).rtakeWhile (fun b => (timeSet b).isNone) = [] :=
    List.rtakeWhile_concat_neg _ _ _ (by simp [h])
  rw [exactTime, hlater, List.filterMap_append]
  simp [h, distance]

theorem exactTime_concat (history : List ClockAction) {a : ClockAction} (h : timeSet a = none) :
    exactTime (history ++ [a]) = exactTime history + (stepOf a).getD 0 := by
  have hlater : (history ++ [a]).rtakeWhile (fun b => (timeSet b).isNone) =
      history.rtakeWhile (fun b => (timeSet b).isNone) ++ [a] :=
    List.rtakeWhile_concat_pos _ _ _ (by simp [h])
  have hsets : (history ++ [a]).filterMap timeSet = history.filterMap timeSet := by simp [h]
  have hone : distance [a] = (stepOf a).getD 0 := distance_cons a []
  rw [exactTime, hsets, hlater, distance_append, hone, exactTime, Nat.add_assoc]

/-- Actions that do not set the time add their steps to it. -/
theorem exactTime_append {calls : List ClockAction} (hset : ∀ a ∈ calls, timeSet a = none)
    (history : List ClockAction) :
    exactTime (history ++ calls) = exactTime history + distance calls := by
  induction calls generalizing history with
  | nil => simp [distance]
  | cons a calls ih =>
    obtain ⟨ha, hcalls⟩ := List.forall_mem_cons.mp hset
    calc exactTime (history ++ a :: calls)
        = exactTime (history ++ [a] ++ calls) := by rw [List.append_cons]
      _ = exactTime history + (stepOf a).getD 0 + distance calls := by
          rw [ih hcalls, exactTime_concat history ha]
      _ = exactTime history + distance (a :: calls) := by rw [distance_cons, Nat.add_assoc]

theorem countedSince_concat (history : List ClockAction) (a : ClockAction) :
    countedSince (history ++ [a]) = if moves a then 0 else countedSince history + deltasOf a := by
  cases hmoves : moves a <;> simp [countedSince, hmoves]

/-! ### Clocks follow their history -/

/-- A clock shows what its history comes to. -/
structure Shows (history : List ClockAction) (k : Clock) : Prop where
  now : k.now.toNat = min (exactTime history) lastTime
  deltas : k.deltas.toNat = countedSince history % UInt64.size

theorem shows_start : Shows [] start := ⟨rfl, rfl⟩

/-- Every action keeps a clock in step with its history: a time that was cut is the last one, and the exact
one is beyond it and stays there until the time is set. -/
theorem Shows.change {history : List ClockAction} {k : Clock} (h : Shows history k) (a : ClockAction) :
    Shows (history ++ [a]) (a.change k) := by
  cases a with
  | read => exact ⟨by rw [exactTime_concat _ rfl]; exact h.now, by rw [countedSince_concat]; exact h.deltas⟩
  | set t => exact ⟨by rw [exactTime_of_set _ rfl]; exact toNat_saturate t, by rw [countedSince_concat]; rfl⟩
  | advance t =>
    refine ⟨?_, by rw [countedSince_concat]; rfl⟩
    have hexact : exactTime (history ++ [.advance t]) = exactTime history + t := exactTime_concat _ rfl
    have hnow : (k.advance t).now.toNat = min (k.now.toNat + t) lastTime := now_advance t k
    rw [ClockAction.change, hexact, hnow, h.now]
    omega
  | tick n =>
    refine ⟨by rw [exactTime_concat _ rfl]; exact h.now, ?_⟩
    have hcounted : countedSince (history ++ [.tick n]) = countedSince history + n := countedSince_concat _ _
    have hdeltas : (k.tickBy n).deltas.toNat = (k.deltas.toNat + n % 2 ^ 64) % 2 ^ 64 := by
      rw [tickBy, UInt64.toNat_add, UInt64.toNat_ofNat']
    rw [ClockAction.change, hcounted, hdeltas, h.deltas]
    exact (Nat.add_mod _ _ _).symm

/-- A clock shows its history at any time. -/
theorem shows_after (history : List ClockAction) : Shows history (after history) := by
  induction history using List.reverseRecOn with
  | nil => exact shows_start
  | append_singleton history a ih =>
    rw [after, List.foldl_concat]
    exact ih.change a

/-- An action without the length of its step. -/
def resting : ClockAction → ClockAction
  | .advance _ => .advance 0
  | a => a

/-- How long the steps are plays no part in counting delta cycles. -/
theorem countedSince_map_resting (history : List ClockAction) :
    countedSince (history.map resting) = countedSince history := by
  induction history using List.reverseRecOn with
  | nil => rfl
  | append_singleton history a ih =>
    have hmoves : moves (resting a) = moves a := by cases a <;> rfl
    have hdeltas : deltasOf (resting a) = deltasOf a := by cases a <;> rfl
    rw [List.map_append, List.map_singleton, countedSince_concat, countedSince_concat, ih, hmoves, hdeltas]

/-- **A clock shows the exact time, cut once.** Let anything be done with a clock that started at the start
of time. It shows the time that was set last and all steps since then, added up exactly and cut once to
what a word can hold; and it has counted the delta cycles since time was last set or moved, be it by
nothing, up to whole turns of the word. So, until the time is set again, the clock does not go back, and
the order of the steps plays no part: the same steps in another order lead to the same time, and to the
same reading if they only change places with one another. -/
theorem reading_after (history : List ClockAction) :
    (after history).now.toNat = min (exactTime history) lastTime ∧
      (after history).deltas.toNat = countedSince history % UInt64.size ∧
      (∀ calls, (∀ a ∈ calls, timeSet a = none) →
        (after history).now ≤ (after (history ++ calls)).now) ∧
      ∀ calls calls', (∀ a ∈ calls, timeSet a = none) → (∀ a ∈ calls', timeSet a = none) →
        (calls.filterMap stepOf).Perm (calls'.filterMap stepOf) →
        (after (history ++ calls)).now = (after (history ++ calls')).now ∧
          (calls.map resting = calls'.map resting →
            after (history ++ calls) = after (history ++ calls')) := by
  have hnow (history : List ClockAction) := (shows_after history).now
  refine ⟨hnow history, (shows_after history).deltas, fun calls hcalls => ?_,
    fun calls calls' hcalls hcalls' hperm => ?_⟩
  · rw [UInt64.le_iff_toNat_le, hnow, hnow, exactTime_append hcalls]
    omega
  · have hdistance : distance calls = distance calls' := hperm.sum_eq
    have htime : (after (history ++ calls)).now = (after (history ++ calls')).now := by
      rw [← UInt64.toNat_inj, hnow, hnow, exactTime_append hcalls, exactTime_append hcalls', hdistance]
    refine ⟨htime, fun hplaces => ?_⟩
    have hcounted : countedSince (history ++ calls) = countedSince (history ++ calls') := by
      rw [← countedSince_map_resting, List.map_append, hplaces, ← List.map_append,
        countedSince_map_resting]
    have hdeltas : (after (history ++ calls)).deltas = (after (history ++ calls')).deltas := by
      rw [← UInt64.toNat_inj, (shows_after _).deltas, (shows_after _).deltas, hcounted]
    exact congrArg₂ Clock.mk htime hdeltas

/-- A clock that is moved beyond the last time it can show and set again, and steps of which one alone is
longer than a word can hold, with a step of nothing among delta cycles. -/
theorem reading_after_beyond_the_last_time :
    let history : List ClockAction := [.advance (2 ^ 64), .tick 3, .set 5, .tick 7, .advance 0, .tick 2]
    let calls : List ClockAction := [.advance 10, .tick 1, .advance (2 ^ 70), .tick 4]
    let calls' : List ClockAction := [.advance (2 ^ 70), .tick 1, .advance 10, .tick 4]
    (after history).now.toNat = 5 ∧ (after history).deltas.toNat = 2 ∧
      (after history).now ≤ (after (history ++ calls)).now ∧
      (after (history ++ calls)).now.toNat = 2 ^ 64 - 1 ∧
      after (history ++ calls) = after (history ++ calls') := by
  intro history calls calls'
  obtain ⟨hnow, hdeltas, hmono, horder⟩ := reading_after history
  obtain ⟨hlast, -⟩ := reading_after (history ++ calls)
  exact ⟨hnow.trans (by decide), hdeltas.trans (by decide), hmono calls (by decide), hlast.trans (by decide),
    (horder calls calls' (by decide) (by decide) (by decide)).2 rfl⟩

end Logbook.Clock
