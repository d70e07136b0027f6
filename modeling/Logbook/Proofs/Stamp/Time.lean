/-
# Stamps bracket the time

What a stamp denotes is the time with everything cut off that its last place cannot show, so the time lies
less than one last place above it. The unit grows with the time. A time that is shown in a larger unit has
come to at least one whole of it, and an earlier one that is shown in a smaller unit has not; so later times
have no earlier stamps, across the units as well (`shown_mono`).

Key definitions: `Stamp.places`, `Stamp.shown`.
Key theorems: `Stamp.denotes_of`, `Stamp.shown_mono`, `Stamp.stamps_bracket_time`.
-/
import Mathlib.Tactic.Linarith
import Logbook.Proofs.Stamp.Text
import Logbook.Proofs.Stamp.Words
import Logbook.Registry

namespace Logbook

/-! ### Units -/

namespace TimeUnit

/-- A larger unit is at least a thousand times as long. -/
theorem thousand_mul_le {u v : TimeUnit} (h : u.nanoseconds < v.nanoseconds) :
    1000 * u.nanoseconds ≤ v.nanoseconds := by
  revert h
  cases u <;> cases v <;> decide

theorem fitting_eq (t : Nat) : fitting t =
    if 1000000000 ≤ t then .second else if 1000000 ≤ t then .millisecond
    else if 1000 ≤ t then .microsecond else .nanosecond := by
  simp only [fitting, all, List.find?_cons, List.find?_nil, nanoseconds]
  by_cases hs : 1000000000 ≤ t
  · simp [hs]
  by_cases hms : 1000000 ≤ t
  · simp [hs, hms]
  by_cases hus : 1000 ≤ t
  · simp [hs, hms, hus]
  · simp only [hs, hms, hus, decide_false, if_false]
    split <;> rfl

/-- At least one whole of the fitting unit has passed. -/
theorem nanoseconds_fitting_le {t : Nat} (h : 0 < t) : (fitting t).nanoseconds ≤ t := by
  rw [fitting_eq]
  split_ifs <;> simp only [nanoseconds] <;> omega

/-- Unless it is the largest one, less than a thousand of the fitting unit have passed. -/
theorem lt_of_fitting_ne {t : Nat} (h : fitting t ≠ .second) : t < 1000 * (fitting t).nanoseconds := by
  rw [fitting_eq] at h ⊢
  split_ifs at h ⊢ with hs hms hus
  · exact absurd rfl h
  all_goals simp only [nanoseconds]; omega

/-- Times that are shown in one of the two smallest units are below a millisecond. -/
theorem lt_of_fitting_small {t : Nat} (h : fitting t = .microsecond ∨ fitting t = .nanosecond) :
    t < 1000000 := by
  rw [fitting_eq] at h
  by_contra hlarge
  have hms : 1000000 ≤ t := Nat.le_of_not_lt hlarge
  split_ifs at h <;> simp at h

/-- The fitting unit of a later time is not shorter. -/
theorem nanoseconds_fitting_mono {t t' : Nat} (h : t ≤ t') :
    (fitting t).nanoseconds ≤ (fitting t').nanoseconds := by
  rw [fitting_eq, fitting_eq]
  split_ifs <;> simp only [nanoseconds] <;> omega

end TimeUnit

namespace Stamp

open TimeUnit (fitting)

/-! ### What is shown of a time -/

/-- The thousandths of the fitting unit that have passed. -/
def places (t : Nat) : Nat := t * 1000 / (fitting t).nanoseconds

/-- What stamps show of a time, in nanoseconds. -/
def shown (t : Nat) : TimeDisplay → ℚ
  | .simTime => places t / 1000 * (fitting t).nanoseconds
  | .cycles period => (t / period : Nat) * period

/-- Cutting wholes and thousandths one after the other is cutting thousandths. -/
theorem whole_add_thousandths (t : Nat) {scale : Nat} (h : 0 < scale) :
    t / scale * 1000 + t % scale * 1000 / scale = t * 1000 / scale := by
  have hsplit : t * 1000 = scale * (t / scale * 1000) + t % scale * 1000 := by
    calc t * 1000 = (scale * (t / scale) + t % scale) * 1000 := by rw [Nat.div_add_mod]
      _ = scale * (t / scale * 1000) + t % scale * 1000 := by ring
  rw [hsplit, Nat.mul_add_div h]

/-- Away from the start of time, the text of a stamp is a decimal in the fitting unit. -/
theorem text_simTime {t : Nat} (h : 0 < t) :
    (simTime t).text = decimal (t / (fitting t).nanoseconds)
      (t % (fitting t).nanoseconds * 1000 / (fitting t).nanoseconds) (fitting t) := by
  rw [simTime, if_neg (Nat.ne_of_gt h)]
  exact text_time _ (thousandths_lt t (fitting t).nanoseconds_pos) _

theorem shown_simTime (t : Nat) :
    shown t .simTime = ((t / (fitting t).nanoseconds : Nat) +
      (t % (fitting t).nanoseconds * 1000 / (fitting t).nanoseconds : Nat) / 1000) *
        (fitting t).nanoseconds := by
  rw [shown, places, ← whole_add_thousandths t (fitting t).nanoseconds_pos]
  push_cast
  ring

/-- The text of a stamp denotes what is shown of the time. -/
theorem denotes_of (t : Nat) : ∀ {display : TimeDisplay}, (∀ period, display = .cycles period → period ≠ 0) →
    Denotes (of t display).text (shown t display) display
  | .cycles period, hperiod => by
    have hmax : Nat.max period 1 = period := Nat.max_eq_left (Nat.pos_of_ne_zero (hperiod period rfl))
    exact ⟨t / period, by rw [of, hmax]; rfl, rfl⟩
  | .simTime, _ => by
    rcases Nat.eq_zero_or_pos t with rfl | ht
    · exact ⟨0, 0, .second, by decide, rfl, by simp [shown, places]⟩
    · exact ⟨_, _, _, thousandths_lt t (fitting t).nanoseconds_pos, text_simTime ht, shown_simTime t⟩

/-- No stamp shows more than the time. -/
theorem shown_le (t : Nat) : ∀ display, shown t display ≤ t
  | .cycles period => by
    have hcut : t / period * period ≤ t := Nat.div_mul_le_self t period
    rw [shown]
    exact_mod_cast hcut
  | .simTime => by
    have hcut : places t * (fitting t).nanoseconds ≤ t * 1000 := Nat.div_mul_le_self _ _
    have hrational : (places t : ℚ) * (fitting t).nanoseconds ≤ t * 1000 := by exact_mod_cast hcut
    rw [shown]
    linarith

/-- The time is less than one thousandth of the unit above what is shown. -/
theorem lt_shown_add (t : Nat) : (t : ℚ) < shown t .simTime + (fitting t).nanoseconds / 1000 := by
  have hcut : t * 1000 < places t * (fitting t).nanoseconds + (fitting t).nanoseconds :=
    Nat.lt_div_mul_add (fitting t).nanoseconds_pos
  have hrational : (t : ℚ) * 1000 < places t * (fitting t).nanoseconds + (fitting t).nanoseconds := by
    exact_mod_cast hcut
  rw [shown]
  linarith

/-- A time whose unit is made of nanoseconds by thousandths is shown as it is. -/
theorem shown_of_lt {t : Nat} (h : t < 1000000) : shown t .simTime = t := by
  have hdvd : (fitting t).nanoseconds ∣ t * 1000 := by
    rw [TimeUnit.fitting_eq]
    split_ifs <;> simp only [TimeUnit.nanoseconds] <;> omega
  have hexact : places t * (fitting t).nanoseconds = t * 1000 := Nat.div_mul_cancel hdvd
  have hrational : (places t : ℚ) * (fitting t).nanoseconds = t * 1000 := by exact_mod_cast hexact
  rw [shown]
  linarith

/-- At least one whole unit is shown. -/
theorem nanoseconds_le_shown {t : Nat} (h : 0 < t) : ((fitting t).nanoseconds : ℚ) ≤ shown t .simTime := by
  have hwhole : 1000 ≤ places t := by
    rw [places, Nat.le_div_iff_mul_le (fitting t).nanoseconds_pos, Nat.mul_comm]
    exact Nat.mul_le_mul_right 1000 (TimeUnit.nanoseconds_fitting_le h)
  have hscaled : 1000 * (fitting t).nanoseconds ≤ places t * (fitting t).nanoseconds :=
    Nat.mul_le_mul_right _ hwhole
  have hrational : (1000 : ℚ) * (fitting t).nanoseconds ≤ places t * (fitting t).nanoseconds := by
    exact_mod_cast hscaled
  rw [shown]
  linarith

/-- **Later times are not shown as earlier ones.** In one unit the thousandths grow with the time. Where the
unit changes, the earlier time has not come to one whole of the new unit, and the later one shows at least
that. -/
theorem shown_mono {t t' : Nat} (h : t ≤ t') : ∀ display, shown t display ≤ shown t' display
  | .cycles period => by
    have hcount : t / period * period ≤ t' / period * period :=
      Nat.mul_le_mul_right period (Nat.div_le_div_right h)
    rw [shown, shown]
    exact_mod_cast hcount
  | .simTime => by
    rcases Nat.eq_zero_or_pos t' with rfl | ht'
    · rw [Nat.le_zero.mp h]
    rcases Nat.eq_or_lt_of_le (TimeUnit.nanoseconds_fitting_mono h) with hsame | hlonger
    · have hplaces : places t ≤ places t' := by
        rw [places, places, hsame]
        exact Nat.div_le_div_right (Nat.mul_le_mul_right 1000 h)
      have hscaled : places t * (fitting t).nanoseconds ≤ places t' * (fitting t').nanoseconds := by
        rw [hsame]
        exact Nat.mul_le_mul_right _ hplaces
      have hrational : (places t : ℚ) * (fitting t).nanoseconds ≤ places t' * (fitting t').nanoseconds := by
        exact_mod_cast hscaled
      rw [shown, shown]
      linarith
    · have hnotSecond : fitting t ≠ .second := by
        intro hsecond
        exact absurd hlonger (Nat.not_lt.mpr (hsecond ▸ (fitting t').nanoseconds_le_second))
      have hbelow : t < (fitting t').nanoseconds :=
        Nat.lt_of_lt_of_le (TimeUnit.lt_of_fitting_ne hnotSecond) (TimeUnit.thousand_mul_le hlonger)
      calc shown t .simTime
          ≤ t := shown_le t .simTime
        _ ≤ (fitting t').nanoseconds := by exact_mod_cast Nat.le_of_lt hbelow
        _ ≤ shown t' .simTime := nanoseconds_le_shown ht'

/-- A registry that shows cycles has a length for them. -/
theorem period_ne_zero {r : Registry} {period : Nat} (h : r.timeDisplay = .cycles period) : period ≠ 0 := by
  intro hzero
  rw [Registry.timeDisplay] at h
  split at h
  · split at h
    · exact absurd h (by simp)
    · next hlength => exact hlength ((TimeDisplay.cycles.inj h).trans hzero)
  · exact absurd h (by simp)

/-- **Stamps bracket the time and do not go back.** Let a registry say how stamps show the time. If it shows
cycles, these have a length, and a stamp is the number of whole cycles that have passed. Otherwise the start
of time is shown as zero seconds, and any other time as a decimal with exactly three places in a unit of
which at least one whole has passed, and less than a thousand unless it is the largest; the time is what the
stamp says or less than one thousandth of the unit more, and it is just that in microseconds and nanoseconds,
so that different times below a millisecond have different stamps. Every stamp denotes one time, and a
later time has no stamp that denotes an earlier one. For every length of time that can be told, the stamp
can be worked out in words of 128 bits, without an overflow or a division by zero. -/
theorem stamps_bracket_time (r : Registry) :
    (∀ period, r.timeDisplay = .cycles period → period ≠ 0 ∧ ∀ t, ∃ count : Nat,
        (of t r.timeDisplay).text = toString count ++ " cycles" ∧
          count * period ≤ t ∧ t < (count + 1) * period) ∧
      (r.timeDisplay = .simTime →
        (of 0 r.timeDisplay).text = "0.000 s" ∧
          (∀ t, 0 < t → ∃ (whole thousandths : Nat) (unit : TimeUnit), thousandths < 1000 ∧
            (of t r.timeDisplay).text = decimal whole thousandths unit ∧
            1 ≤ whole ∧ (unit ≠ .second → whole < 1000) ∧
            ((whole + thousandths / 1000 : ℚ) * unit.nanoseconds ≤ t ∧
              (t : ℚ) < (whole + thousandths / 1000) * unit.nanoseconds + unit.nanoseconds / 1000) ∧
            (unit = .microsecond ∨ unit = .nanosecond →
              (whole + thousandths / 1000 : ℚ) * unit.nanoseconds = t)) ∧
          ∀ t t', t < 1000000 → t' < 1000000 →
            (of t r.timeDisplay).text = (of t' r.timeDisplay).text → t = t') ∧
      ((∀ t, ∃ time, Denotes (of t r.timeDisplay).text time r.timeDisplay) ∧
        ∀ t t', t ≤ t' → ∀ time time', Denotes (of t r.timeDisplay).text time r.timeDisplay →
          Denotes (of t' r.timeDisplay).text time' r.timeDisplay → time ≤ time') ∧
      ∀ (d : Duration) (period : Option Duration), r.timeDisplay = displayed period →
        work? d period = some (of d.nanoseconds r.timeDisplay) := by
  have hdenotes (t : Nat) : Denotes (of t r.timeDisplay).text (shown t r.timeDisplay) r.timeDisplay :=
    denotes_of t fun _ => period_ne_zero
  refine ⟨fun period hperiod => ⟨period_ne_zero hperiod, fun t => ?_⟩,
    fun hsim => ⟨by rw [hsim]; rfl, fun t ht => ?_, fun t t' ht ht' htext => ?_⟩,
    ⟨fun t => ⟨_, hdenotes t⟩, fun t t' htt' time time' htime htime' => ?_⟩,
    fun d period hperiod => hperiod ▸ work?_eq d period⟩
  · have hpos : 0 < period := Nat.pos_of_ne_zero (period_ne_zero hperiod)
    have hmax : Nat.max period 1 = period := Nat.max_eq_left hpos
    refine ⟨t / period, by rw [hperiod, of, hmax]; rfl, Nat.div_mul_le_self t period, ?_⟩
    rw [Nat.mul_comm]
    exact Nat.lt_mul_div_succ t hpos
  · have hpos := (fitting t).nanoseconds_pos
    refine ⟨_, _, _, thousandths_lt t hpos, by rw [hsim]; exact text_simTime ht, ?_, fun hne => ?_, ?_⟩
    · exact Nat.div_pos (TimeUnit.nanoseconds_fitting_le ht) hpos
    · exact Nat.div_lt_of_lt_mul (by rw [Nat.mul_comm]; exact TimeUnit.lt_of_fitting_ne hne)
    · rw [← shown_simTime]
      exact ⟨⟨shown_le t .simTime, lt_shown_add t⟩, fun hunit => shown_of_lt (TimeUnit.lt_of_fitting_small hunit)⟩
  · have hfirst : Denotes (of t' .simTime).text (shown t .simTime) .simTime := by
      rw [← hsim, ← htext]
      exact hdenotes t
    have hsecond : Denotes (of t' .simTime).text (shown t' .simTime) .simTime := by
      rw [← hsim]
      exact hdenotes t'
    have htimes : (t : ℚ) = t' := by
      rw [← shown_of_lt ht, hfirst.unique hsecond, shown_of_lt ht']
    exact_mod_cast htimes
  · rw [htime.unique (hdenotes t), htime'.unique (hdenotes t')]
    exact shown_mono htt' _

/-- Stamps on both sides of a change of the unit, the longest time that can be told, and cycles of three
nanoseconds. -/
theorem stamps_bracket_time_around_a_second :
    let r : Registry := Registry.ofLevel .warning
    let q : Registry := r.setCycleBase 3
    let longest : Duration := ⟨18446744073709551615, 999999999, by decide⟩
    let period : Duration := ⟨0, 3, by decide⟩
    r.timeDisplay = .simTime ∧ q.timeDisplay = .cycles 3 ∧
      (∃ count : Nat, (of 11 q.timeDisplay).text = toString count ++ " cycles" ∧
        count * 3 ≤ 11 ∧ 11 < (count + 1) * 3) ∧
      (of 0 r.timeDisplay).text = "0.000 s" ∧
      (∃ (whole thousandths : Nat) (unit : TimeUnit), thousandths < 1000 ∧
        (of 999999999 r.timeDisplay).text = decimal whole thousandths unit ∧ 1 ≤ whole) ∧
      (of 999999 r.timeDisplay).text ≠ (of 999998 r.timeDisplay).text ∧
      (∀ time time', Denotes (of 999999999 r.timeDisplay).text time r.timeDisplay →
        Denotes (of 1000000000 r.timeDisplay).text time' r.timeDisplay → time ≤ time') ∧
      work? longest none = some (of longest.nanoseconds r.timeDisplay) ∧
      work? longest (some period) = some (of longest.nanoseconds q.timeDisplay) := by
  intro r q longest period
  obtain ⟨-, hsim, ⟨-, hmono⟩, hwork⟩ := stamps_bracket_time r
  obtain ⟨hcycles, -, -, hwork'⟩ := stamps_bracket_time q
  obtain ⟨hzero, hdecimal, hdistinct⟩ := hsim rfl
  obtain ⟨whole, thousandths, unit, hlt, htext, hwhole, -⟩ := hdecimal 999999999 (by decide)
  refine ⟨rfl, rfl, (hcycles 3 rfl).2 11, hzero, ⟨whole, thousandths, unit, hlt, htext, hwhole⟩, fun hsame => ?_,
    hmono _ _ (by decide), hwork longest none rfl, hwork' longest (some period) rfl⟩
  exact absurd (hdistinct 999999 999998 (by decide) (by decide) hsame) (by decide)

end Stamp

end Logbook
