/-
# Sets of characters

A set of characters is held as ranges of code points, in increasing order and with gaps between
them. Sets can be joined, cut and turned around; the whole is the code points from zero to the
greatest one, without the surrogates, which no character has.

Key definitions: `Ranges`, `Ranges.holds`, `Ranges.ofList`, `Ranges.union`, `Ranges.complement`,
`Ranges.intersection`, `Ranges.difference`, `Ranges.either`.
-/

namespace Logbook.Text

/-- Ranges of code points, both ends included. -/
abbrev Ranges : Type := List (Nat × Nat)

namespace Ranges

/-- The greatest code point. -/
def top : Nat := 0x10ffff

/-- The code points that no character has. -/
def surrogates : Nat × Nat := (0xd800, 0xdfff)

/-- Whether a code point lies in one of the ranges. -/
def holds (rs : Ranges) (n : Nat) : Bool := rs.any fun r => r.1 ≤ n && n ≤ r.2

/-- Ranges in the order of their starts, with those in one that overlap or touch: `r` is the range
that is being extended. -/
def joinFrom (r : Nat × Nat) : Ranges → Ranges
  | [] => [r]
  | s :: rest =>
    if s.1 ≤ r.2 + 1 then joinFrom (r.1, max r.2 s.2) rest else r :: joinFrom s rest

/-- Ranges in the order of their starts, with those in one that overlap or touch. -/
def join : Ranges → Ranges
  | [] => []
  | r :: rest => joinFrom r rest

/-- The set that any ranges make. -/
def ofList (rs : List (Nat × Nat)) : Ranges := join (rs.mergeSort fun r s => r.1 ≤ s.1)

/-- What either of two sets holds. -/
def union (a b : Ranges) : Ranges := ofList (a ++ b)

/-- The gaps in front of some ranges and after them, from a code point on. -/
def gaps (next : Nat) : Ranges → Ranges
  | [] => if next ≤ top then [(next, top)] else []
  | r :: rest => (if next < r.1 then [(next, r.1 - 1)] else []) ++ gaps (r.2 + 1) rest

/-- What a set does not hold. -/
def complement (a : Ranges) : Ranges := gaps 0 (union [surrogates] a)

/-- What both of two sets hold. -/
def intersection (a b : Ranges) : Ranges := (a.complement.union b.complement).complement

/-- The characters of a set. -/
def scalars (a : Ranges) : Ranges := a.complement.complement

/-- What the first of two sets holds and the second does not. -/
def difference (a b : Ranges) : Ranges := a.intersection b.complement

/-- What one of two sets holds and the other does not. -/
def either (a b : Ranges) : Ranges := (a.difference b).union (b.difference a)

/-- The set of a single code point. -/
def single (n : Nat) : Ranges := [(n, n)]

end Ranges

end Logbook.Text
