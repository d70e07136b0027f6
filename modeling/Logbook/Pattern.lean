/-
# Patterns

A pattern describes stretches of a text: characters of given sets, places that meet a condition, one
stretch after another, a choice between two, and repetitions. Whether some stretch of a text fits is
found by running the pattern over the text.

Key definitions: `Place`, `Place.fits`, `Pattern`.
-/
import Logbook.Pattern.Word

namespace Logbook

/-- A condition on a place between two characters. Some look for words, of the letters of every
script or of ASCII alone. -/
inductive Place where
  | start
  | finish
  | lineStart
  | lineEnd
  /-- The start of a line where a carriage return ends lines too. -/
  | returnStart
  /-- The end of a line where a carriage return ends lines too. -/
  | returnEnd
  | wordEdge (ascii : Bool)
  | noWordEdge (ascii : Bool)
  | wordStart (ascii : Bool)
  | wordEnd (ascii : Bool)
  | noWordBefore (ascii : Bool)
  | noWordAfter (ascii : Bool)
  deriving DecidableEq

namespace Place

/-- Whether a character belongs to a word. -/
def inWord (ascii : Bool) (c : Char) : Bool :=
  if ascii then c.isAlphanum || c = '_' else Pattern.isWordChar c

/-- Whether a place fits, given the characters before and after it. A carriage return and the line
feed after it end a line together. -/
def fits (before after : Option Char) (p : Place) : Bool :=
  let word (ascii : Bool) (c : Option Char) : Bool := c.any (inWord ascii)
  match p with
  | .start => before.isNone
  | .finish => after.isNone
  | .lineStart => before.isNone || before = some '\n'
  | .lineEnd => after.isNone || after = some '\n'
  | .returnStart =>
    before.isNone || before = some '\n' || (before = some '\r' && after ≠ some '\n')
  | .returnEnd =>
    after.isNone || after = some '\r' || (after = some '\n' && before ≠ some '\r')
  | .wordEdge ascii => word ascii before != word ascii after
  | .noWordEdge ascii => word ascii before == word ascii after
  | .wordStart ascii => !word ascii before && word ascii after
  | .wordEnd ascii => word ascii before && !word ascii after
  | .noWordBefore ascii => !word ascii before
  | .noWordAfter ascii => !word ascii after

end Place

/-- A description of stretches of text. -/
inductive Pattern where
  /-- The empty stretch. -/
  | empty
  /-- One character of a set. -/
  | one (k : Text.Ranges)
  /-- The empty stretch at a place that fits. -/
  | place (p : Place)
  | both (first second : Pattern)
  | either (first second : Pattern)
  /-- At least `least` stretches of one kind in a row, and at most `most` if that is given; `short`
  says whether few of them are tried before many. -/
  | times (p : Pattern) (least : Nat) (most : Option Nat) (short : Bool)
  /-- A stretch that is marked as a part of its own, with its number. -/
  | group (number : Nat) (p : Pattern)
  deriving DecidableEq

end Logbook
