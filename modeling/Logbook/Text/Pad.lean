/-
# Columns

A text is brought to the width of a column by fill characters. Widths count characters; a text
that is wider than its column is left alone. A column can be at most 65535 characters wide.

Key definitions: `widest`, `ColumnError`, `padEnd`, `padStart`, `padBoth`.
-/

namespace Logbook

/-- Why a column cannot be made. -/
inductive ColumnError where
  | tooWide
  deriving DecidableEq

/-- The wording of an error. -/
def ColumnError.message : ColumnError → String
  | .tooWide => "Formatting argument out of range"

namespace Text

/-- The width of the widest column. -/
def widest : Nat := 65535

/-- Text on the left, fill on the right. -/
def padEnd (width : Nat) (fill : Char) (cs : List Char) : List Char :=
  cs ++ List.replicate (width - cs.length) fill

/-- Fill on the left, text on the right. -/
def padStart (width : Nat) (fill : Char) (cs : List Char) : List Char :=
  List.replicate (width - cs.length) fill ++ cs

/-- Fill on both sides; an odd one goes to the right. -/
def padBoth (width : Nat) (fill : Char) (cs : List Char) : List Char :=
  let missing := width - cs.length
  List.replicate (missing / 2) fill ++ cs ++ List.replicate (missing - missing / 2) fill

@[simp] theorem length_padEnd (width : Nat) (fill : Char) (cs : List Char) :
    (padEnd width fill cs).length = Nat.max width cs.length := by
  simp only [padEnd, List.length_append, List.length_replicate, Nat.max_def]
  split <;> omega

end Text

end Logbook
