/-
# Hexadecimal numbers

Digits are letters in either case, and the first digit of a number counts most.

Key definitions: `hexDigit?`, `hexNumber?`.
-/

namespace Logbook.Text

/-- The value of a hexadecimal digit. -/
def hexDigit? (c : Char) : Option Nat :=
  if '0' ≤ c ∧ c ≤ '9' then some (c.toNat - 48)
  else if 'a' ≤ c ∧ c ≤ 'f' then some (c.toNat - 87)
  else if 'A' ≤ c ∧ c ≤ 'F' then some (c.toNat - 55)
  else none

/-- The number that digits make; no digits make none. -/
def hexNumber? (cs : List Char) : Option Nat :=
  if cs.isEmpty then none
  else cs.foldlM (fun n c => (hexDigit? c).map fun d => n * 16 + d) 0

end Logbook.Text
