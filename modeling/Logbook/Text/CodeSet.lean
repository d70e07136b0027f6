/-
# Descriptions of sets of characters

The properties that a standard gives to characters are described by lists of code points, and by
sets that are put together from others. A description is only worked out when the set is asked for.

A list is written as runs with blanks between them, over several lines: a code point, the first and
the last of several in a row, or of several at equal distances and then the distance. All numbers
are hexadecimal.

Key definitions: `CodeSet`, `CodeSet.ranges`.
-/
import Logbook.Text.Blank
import Logbook.Text.Folding
import Logbook.Text.Hexadecimal

namespace Logbook.Text

/-- A description of a set of code points. -/
inductive CodeSet where
  /-- The code points of a list. -/
  | listed (lines : List String)
  | union (a b : CodeSet)
  /-- What both of two sets hold. -/
  | both (a b : CodeSet)
  | without (a b : CodeSet)
  /-- What only one of two sets holds. -/
  | either (a b : CodeSet)
  /-- Every character that a set does not hold. -/
  | others (a : CodeSet)
  /-- What letter case folds to something else. -/
  | folded
  /-- What letter case folds something else to. -/
  | foldedTo

namespace CodeSet

/-- What any of several sets hold. -/
def all (sets : List CodeSet) : CodeSet := sets.foldr union (listed [])

/-- The code points of a run. -/
def run (word : List Char) : Ranges :=
  let number (cs : List Char) : Nat := (hexNumber? cs).getD 0
  let low := word.takeWhile (· ≠ '-')
  let rest := word.drop (low.length + 1)
  let high := rest.takeWhile (· ≠ '/')
  let step := rest.drop (high.length + 1)
  let first := number low
  let last := if high.isEmpty then first else number high
  if step.isEmpty then [(first, last)]
  else
    (List.range ((last - first) / number step + 1)).map fun i =>
      (first + i * number step, first + i * number step)

/-- The code points of a list. -/
def ofLines (lines : List String) : Ranges :=
  .ofList (lines.flatMap fun l => (words l.toList).flatMap run)

/-- The set that is described. -/
def ranges : CodeSet → Ranges
  | .listed lines => ofLines lines
  | .union a b => a.ranges.union b.ranges
  | .both a b => a.ranges.intersection b.ranges
  | .without a b => a.ranges.difference b.ranges
  | .either a b => a.ranges.either b.ranges
  | .others a => a.ranges.complement
  | .folded => .ofList (foldings.map fun f => (f.1, f.1))
  | .foldedTo => .ofList (foldings.map fun f => (f.2, f.2))

end CodeSet

end Logbook.Text
