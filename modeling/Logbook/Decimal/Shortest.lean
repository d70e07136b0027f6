/-
# The fewest digits that read back

A binary fraction is written with the fewest decimal digits that are still nearer to it than to
its neighbours. `Gap` holds a positive number together with the ends of the stretch of numbers that
round to it, all three as whole numbers on one fine decimal scale. On the grid of numbers with `n`
digits the two neighbours of the value are tried; the first grid with one of them inside the stretch
wins, the nearer of two is taken, and of two that are equally near the larger.

Key definitions: `Gap`, `Gap.holds`, `Gap.onGrid?`, `Gap.shortest`, `Decimal`.
-/

namespace Logbook

/-- A positive decimal number: the fraction `0.d₁d₂…` with these digits, times a power of ten. -/
structure Decimal where
  digits : List Char
  exponent : Int
  deriving DecidableEq

/-- A positive number and the stretch of numbers that round to it, in units of a power of ten. -/
structure Gap where
  value : Nat
  low : Nat
  high : Nat
  /-- Whether the ends of the stretch belong to it. -/
  closed : Bool
  /-- The value is in units of ten to the power of minus this. -/
  scale : Nat

namespace Gap

/-- Whether a number lies in the stretch. -/
def holds (g : Gap) (x : Nat) : Bool :=
  if g.closed then g.low ≤ x && x ≤ g.high else g.low < x && x < g.high

/-- The digits of a number without the zeros at its end. -/
def significant (n : Nat) : List Char :=
  ((Nat.toDigits 10 n).reverse.dropWhile (· = '0')).reverse

/-- The decimal number with the given count of grid steps of ten to the power `step`. -/
def decimal (g : Gap) (count step : Nat) : Decimal :=
  ⟨significant count, (Nat.toDigits 10 count).length + step - (g.scale : Int)⟩

/-- The nearest number with at most `n` digits, if it lies in the stretch; `size` is the number of
digits of the value. -/
def onGrid? (g : Gap) (size n : Nat) : Option Decimal :=
  let step := size - n
  let grid := Nat.pow 10 step
  let below := g.value / grid
  let down := g.holds (below * grid)
  let up := g.holds ((below + 1) * grid)
  let nearerUp := grid ≤ 2 * (g.value - below * grid)
  if up && (!down || nearerUp) then some (g.decimal (below + 1) step)
  else if down then some (g.decimal below step)
  else none

/-- The first grid, from `n` digits on, with a number inside the stretch. -/
def search (g : Gap) (size : Nat) : Nat → Nat → Decimal
  | _, 0 => g.decimal g.value 0
  | n, tries + 1 =>
    match g.onGrid? size n with
    | some d => d
    | none => search g size (n + 1) tries

/-- The decimal number with the fewest digits in the stretch. -/
def shortest (g : Gap) : Decimal :=
  let size := (Nat.toDigits 10 g.value).length
  g.search size 1 size

end Gap

end Logbook
