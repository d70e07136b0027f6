/-
# Clocks of simulated time

A clock is moved by whoever runs the simulation. It counts nanoseconds in a 64-bit word and stays
at the largest when time would leave it, and it counts the delta cycles since time last moved.

Key definitions: `Clock`, `Clock.set`, `Clock.advance`, `Clock.tick`, `Clock.tickBy`.
-/

namespace Logbook

/-- The reading of a clock. -/
structure Clock where
  now : UInt64
  deltas : UInt64
  deriving DecidableEq

namespace Clock

/-- A clock at the start of time. -/
def start : Clock := ⟨0, 0⟩

instance : Inhabited Clock := ⟨start⟩

/-- The last time that a clock can show. -/
def lastTime : Nat := UInt64.size - 1

/-- A length of time, cut to what a clock can show. -/
def saturate (t : Nat) : UInt64 := UInt64.ofNat (Nat.min t lastTime)

/-- Moves the clock to a time. -/
def set (t : Nat) (_ : Clock) : Clock := ⟨saturate t, 0⟩

/-- Moves the clock forward. -/
def advance (step : Nat) (c : Clock) : Clock :=
  ⟨saturate (c.now.toNat + (saturate step).toNat), 0⟩

/-- Counts a delta cycle. -/
def tick (c : Clock) : Clock := { c with deltas := c.deltas + 1 }

/-- Counts as many delta cycles as given. -/
def tickBy (n : Nat) (c : Clock) : Clock := { c with deltas := c.deltas + UInt64.ofNat n }

theorem now_le_lastTime (k : Clock) : k.now.toNat ≤ lastTime := Nat.le_pred_of_lt k.now.toNat_lt

theorem toNat_saturate (t : Nat) : (saturate t).toNat = min t lastTime := by
  have hlt : min t lastTime < UInt64.size := Nat.lt_of_le_of_lt (Nat.min_le_right t lastTime) (by decide)
  exact UInt64.toNat_ofNat_of_lt hlt

/-- Time moves on by a step, as far as the clock can show. -/
theorem now_advance (step : Nat) (k : Clock) :
    (k.advance step).now.toNat = min (k.now.toNat + step) lastTime := by
  rw [advance, toNat_saturate, toNat_saturate]
  omega

/-- Counting many delta cycles at once is counting them one after the other. -/
theorem tickBy_eq_repeat (n : Nat) (c : Clock) : c.tickBy n = n.repeat tick c := by
  induction n with
  | zero => simp [tickBy, Nat.repeat]
  | succ n ih => rw [Nat.repeat, ← ih]; simp [tick, tickBy, UInt64.ofNat_add, UInt64.add_assoc]

end Clock

end Logbook
