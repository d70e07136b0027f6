/-
# Numbers with a point

A number in the binary format of 64 bits is one of a sign and nothing, a sign and infinity, no
number at all, or a sign and a binary fraction. It is written with the fewest digits that read
back, in two ways: in messages always positionally, and in descriptions with at least one decimal,
or with a power of ten when it is very large or very small.

Key definitions: `Binary64.ofBits`, `Binary64.text`, `Binary64.describe`.
-/
import Logbook.Decimal.Shortest

namespace Logbook

/-- A number in the binary format of 64 bits. -/
inductive Binary64 where
  | undefined
  | infinite (negative : Bool)
  | zero (negative : Bool)
  /-- A binary fraction with its shortest decimal form. -/
  | finite (negative : Bool) (magnitude : Decimal)
  deriving DecidableEq

namespace Binary64

/-- The stretch of numbers that round to `m * 2 ^ (e - 1074)`. The neighbour below is nearer when
`m` is the least number of its binary order. The common scale is ten to the power of minus 1100, at
which every end of such a stretch is whole. -/
def gap (m e : Nat) (least : Bool) : Gap :=
  let unit := Nat.pow 2 (e + 24) * Nat.pow 5 1100
  { value := 4 * m * unit
    low := (4 * m - if least then 1 else 2) * unit
    high := (4 * m + 2) * unit
    closed := m % 2 = 0
    scale := 1100 }

/-- The least mantissa of the numbers whose first bit is not written. -/
def leastNormal : Nat := 0x10000000000000

/-- The number with the given sign, biased exponent and fraction bits. -/
def ofParts (negative : Bool) (biased fraction : Nat) : Binary64 :=
  if biased = 2047 then if fraction = 0 then .infinite negative else .undefined
  else if biased = 0 then
    if fraction = 0 then .zero negative else .finite negative (gap fraction 0 false).shortest
  else
    .finite negative
      (gap (leastNormal + fraction) (biased - 1) (fraction = 0 && 1 < biased)).shortest

/-- The number with the given bits. -/
def ofBits (bits : UInt64) : Binary64 :=
  let n := bits.toNat
  ofParts (n / leastNormal / 2048 = 1) (n / leastNormal % 2048) (n % leastNormal)

/-- The sign of a number. -/
def signText (negative : Bool) : String := if negative then "-" else ""

/-- A decimal number without a power of ten, with at least `places` decimals. -/
def positional (d : Decimal) (places : Nat) : List Char :=
  let whole := d.digits.take d.exponent.toNat
  let fraction := List.replicate (-d.exponent).toNat '0' ++ d.digits.drop d.exponent.toNat
  let fraction := fraction ++ List.replicate (places - fraction.length) '0'
  let whole :=
    if whole.isEmpty then ['0']
    else whole ++ List.replicate (d.exponent.toNat - d.digits.length) '0'
  if fraction.isEmpty then whole else whole ++ '.' :: fraction

/-- A decimal number with a power of ten. -/
def scientific (d : Decimal) : List Char :=
  let mantissa :=
    match d.digits with
    | first :: second :: rest => first :: '.' :: second :: rest
    | ds => ds
  mantissa ++ 'e' :: (toString (d.exponent - 1)).toList

/-- A number in a message. -/
def text : Binary64 → String
  | .undefined => "NaN"
  | .infinite s => signText s ++ "inf"
  | .zero s => signText s ++ "0"
  | .finite s d => signText s ++ String.ofList (positional d 0)

/-- A number in a description: from ten to the power of minus four up to ten to the power of
sixteen it is written positionally. -/
def describe : Binary64 → String
  | .undefined => "NaN"
  | .infinite s => signText s ++ "inf"
  | .zero s => signText s ++ "0.0"
  | .finite s d =>
    signText s ++ String.ofList
      (if -4 < d.exponent ∧ d.exponent ≤ 16 then positional d 1 else scientific d)

end Binary64

end Logbook
