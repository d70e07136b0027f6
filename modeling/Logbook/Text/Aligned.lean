/-
# Values in columns

A value is shown in a column in one of a few ways. Only numbers stand in a column; whatever is shown
by its name is not aligned at all, but its column has to be one that can be made.

Key definitions: `Alignment`, `aligned`.
-/
import Logbook.Text.Pad

namespace Logbook.Text

/-- The ways to show a value in a column. -/
inductive Alignment where
  | left
  | right
  | center
  /-- On the right, filled with zeros. -/
  | zeros
  /-- On the right, filled with stars. -/
  | stars
  /-- On the right, with its sign. -/
  | signed
  /-- With a number of decimals, of which whole numbers have none. -/
  | decimals
  deriving DecidableEq

/-- A number in a column. -/
def Alignment.apply (width : Nat) (cs : List Char) : Alignment → List Char
  | .left => padEnd width ' ' cs
  | .right => padStart width ' ' cs
  | .center => padBoth width ' ' cs
  | .zeros => padStart width '0' cs
  | .stars => padStart width '*' cs
  | .signed => padStart width ' ' ('+' :: cs)
  | .decimals => cs

/-- A value in a column, given by its text. -/
def aligned (a : Alignment) (width : Nat) (isNumber : Bool) (s : String) :
    Except ColumnError String :=
  if widest < width then .error .tooWide
  else if isNumber then .ok (String.ofList (a.apply width s.toList))
  else .ok s

end Logbook.Text
