/-
# Stamps worked out in words

Stamps are worked out in words of 128 bits. Here every step of that is checked: a sum or a product that does
not fit a word has no result, and neither has a division by zero. For every length of time that can be told,
none of this comes about, and the stamp is the one that is defined over all numbers (`work?_eq`).

Key definitions: `Checked.mul?`, `Checked.div?`, `Duration`, `Duration.nanoseconds?`, `Stamp.work?`.
Key theorems: `Duration.nanoseconds?_eq`, `Stamp.work?_eq`.
-/
import Mathlib.Tactic.NormNum
import Logbook.Stamp

namespace Logbook

/-! ### Checked arithmetic -/

namespace Checked

/-- The number of words of 128 bits. -/
def size : Nat := 2 ^ 128

/-- A sum, if it fits a word. -/
def add? (a b : Nat) : Option Nat := if a + b < size then some (a + b) else none

/-- A product, if it fits a word. -/
def mul? (a b : Nat) : Option Nat := if a * b < size then some (a * b) else none

/-- A quotient, unless it is one by zero. -/
def div? (a b : Nat) : Option Nat := if b = 0 then none else some (a / b)

/-- A remainder, unless it is one of a division by zero. -/
def mod? (a b : Nat) : Option Nat := if b = 0 then none else some (a % b)

variable {a b : Nat}

theorem add?_of_lt (h : a + b < size) : add? a b = some (a + b) := if_pos h

theorem mul?_of_lt (h : a * b < size) : mul? a b = some (a * b) := if_pos h

theorem div?_of_pos (h : 0 < b) : div? a b = some (a / b) := if_neg (Nat.ne_of_gt h)

theorem mod?_of_pos (h : 0 < b) : mod? a b = some (a % b) := if_neg (Nat.ne_of_gt h)

end Checked

/-! ### Times -/

/-- A length of time as it is told: whole seconds in a word of 64 bits, and what is left of a second in
nanoseconds. -/
structure Duration where
  seconds : UInt64
  rest : Nat
  rest_lt : rest < 1000000000

namespace Duration

/-- The length in nanoseconds. -/
def nanoseconds (d : Duration) : Nat := 1000000000 * d.seconds.toNat + d.rest

/-- The length in nanoseconds, worked out in words. -/
def nanoseconds? (d : Duration) : Option Nat :=
  (Checked.mul? 1000000000 d.seconds.toNat).bind fun whole => Checked.add? whole d.rest

theorem nanoseconds_lt (d : Duration) : d.nanoseconds < 2 ^ 94 := by
  have hseconds := d.seconds.toNat_lt
  have hrest := d.rest_lt
  rw [nanoseconds]
  omega

theorem nanoseconds_lt_size (d : Duration) : d.nanoseconds < Checked.size :=
  Nat.lt_trans d.nanoseconds_lt (by norm_num [Checked.size])

theorem nanoseconds?_eq (d : Duration) : d.nanoseconds? = some d.nanoseconds := by
  have hsum : 1000000000 * d.seconds.toNat + d.rest < Checked.size := d.nanoseconds_lt_size
  have hwhole : 1000000000 * d.seconds.toNat < Checked.size := Nat.lt_of_le_of_lt (Nat.le_add_right _ _) hsum
  rw [nanoseconds?, Checked.mul?_of_lt hwhole, Option.bind_some, Checked.add?_of_lt hsum, nanoseconds]

end Duration

/-! ### Stamps -/

namespace TimeUnit

theorem nanoseconds_pos (u : TimeUnit) : 0 < u.nanoseconds := by cases u <;> decide

theorem nanoseconds_le_second (u : TimeUnit) : u.nanoseconds ≤ second.nanoseconds := by
  cases u <;> decide

end TimeUnit

namespace Stamp

open TimeUnit (fitting)

/-- The stamp of a time in its fitting unit, worked out in words. -/
def simTime? (t : Nat) : Option Stamp :=
  if t = 0 then some (.time 0 0 .second)
  else do
    let scale := (fitting t).nanoseconds
    let whole ← Checked.div? t scale
    let rest ← Checked.mod? t scale
    let thousands ← Checked.mul? rest 1000
    let thousandths ← Checked.div? thousands scale
    return .time whole thousandths (fitting t)

/-- How stamps show the time, with the length of a cycle as it is told. -/
def displayed : Option Duration → TimeDisplay
  | none => .simTime
  | some period => .cycles period.nanoseconds

/-- The stamp of a time, worked out in words; a cycle lasts at least one nanosecond. -/
def work? (d : Duration) (period : Option Duration) : Option Stamp := do
  let t ← d.nanoseconds?
  match period with
  | none => simTime? t
  | some e =>
    let length ← e.nanoseconds?
    let count ← Checked.div? t (Nat.max length 1)
    return .cycles count

theorem thousandths_lt (t : Nat) {scale : Nat} (h : 0 < scale) : t % scale * 1000 / scale < 1000 := by
  rw [Nat.div_lt_iff_lt_mul h, Nat.mul_comm]
  exact Nat.mul_lt_mul_of_pos_left (Nat.mod_lt t h) (by decide)

theorem simTime?_eq (t : Nat) : simTime? t = some (simTime t) := by
  rw [simTime?, simTime]
  split
  · rfl
  · have hpos := (fitting t).nanoseconds_pos
    have hsecond : (fitting t).nanoseconds ≤ 1000000000 := (fitting t).nanoseconds_le_second
    have hrest : t % (fitting t).nanoseconds < (fitting t).nanoseconds := Nat.mod_lt t hpos
    have hfits : t % (fitting t).nanoseconds * 1000 < Checked.size := by
      rw [Checked.size]
      omega
    simp only [Checked.div?_of_pos hpos, Checked.mod?_of_pos hpos, Checked.mul?_of_lt hfits,
      Option.bind_eq_bind, Option.bind_some, Option.pure_def]

/-- **Stamps can be worked out in words.** For every length of time that can be told, shown in simulated time
or in cycles of any such length, each sum and product fits a word and nothing is divided by zero, and what
comes out is the stamp. -/
theorem work?_eq (d : Duration) (period : Option Duration) :
    work? d period = some (of d.nanoseconds (displayed period)) := by
  rw [work?, d.nanoseconds?_eq]
  cases period with
  | none => exact simTime?_eq d.nanoseconds
  | some e =>
    have hpos : 0 < Nat.max e.nanoseconds 1 := Nat.le_max_right _ _
    simp only [e.nanoseconds?_eq, Checked.div?_of_pos hpos, Option.bind_eq_bind, Option.bind_some,
      Option.pure_def, displayed, of]

end Stamp

end Logbook
