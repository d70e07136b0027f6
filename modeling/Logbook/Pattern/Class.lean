/-
# Classes of characters

A place in a pattern is filled by one character of a class. A class is written in brackets, as
characters and ranges side by side, names of sets, brackets inside brackets, and three ways to
combine what stands on the left of a sign with what stands on its right. Brackets may stand for
everything but their contents.

Where letter case does not matter, brackets hold all variants of what is written in them. This is
settled before they are turned around, at every level: what is left out is left out in any case.
Where the letters of ASCII are the only ones, a class may hold nothing else, so nothing can be
turned around.

Key definitions: `Letters`, `ClassSet`, `ClassSet.ranges?`, `ClassSet.depth`.
-/
import Logbook.Pattern.Escape
import Logbook.Text.Folding

namespace Logbook.Pattern

open Text (Ranges)

/-- How two parts of the contents of brackets are combined. -/
inductive Combination where
  /-- What both hold. -/
  | both
  /-- What the left one holds and the right one does not. -/
  | without
  /-- What only one of them holds. -/
  | either
  deriving DecidableEq

/-- The set that two sets make. -/
def Combination.of : Combination → Ranges → Ranges → Ranges
  | .both, a, b => a.intersection b
  | .without, a, b => a.difference b
  | .either, a, b => a.either b

/-- How letters are taken. -/
structure Letters where
  /-- Letter case does not matter. -/
  anyCase : Bool
  /-- There are no letters but those of ASCII. -/
  ascii : Bool
  deriving DecidableEq

namespace Letters

/-- A set, together with all variants if letter case does not matter. -/
def widened (x : Letters) (rs : Ranges) : Ranges :=
  if x.anyCase then
    if x.ascii then rs.withVariants.intersection [(0, 0x7f)] else rs.withVariants
  else rs

/-- A set, or everything else, if that is allowed. -/
def turned? (x : Letters) (negated : Bool) (rs : Ranges) : Option Ranges :=
  if !negated then some rs else if x.ascii then none else some rs.complement

/-- A set between brackets. -/
def closed? (x : Letters) (negated : Bool) (rs : Ranges) : Option Ranges :=
  x.turned? negated (x.widened rs)

/-- What a character stands for by itself. -/
def variants (x : Letters) (n : Nat) : Ranges :=
  if !x.anyCase || (x.ascii && 0x80 ≤ n) then .single n
  else if x.ascii then (Ranges.ofVariants n).intersection [(0, 0x7f)]
  else .ofVariants n

end Letters

/-- What is written in brackets. -/
inductive ClassSet where
  | nothing
  /-- The code points from one to another. -/
  | range (low high : Nat)
  /-- A set that a letter stands for, or everything else. -/
  | known (negated : Bool) (k : Known)
  /-- A set of ASCII characters with a name, or everything else. -/
  | named (negated : Bool) (rs : Ranges)
  /-- The characters with a property, or all others. -/
  | property (negated : Bool) (s : Text.CodeSet)
  | brackets (negated : Bool) (inner : ClassSet)
  /-- Two parts side by side. -/
  | beside (a b : ClassSet)
  | combined (c : Combination) (left right : ClassSet)

namespace ClassSet

/-- The set of a single character. -/
def single (c : Char) : ClassSet := .range c.toNat c.toNat

/-- One more part beside others. -/
def add (s part : ClassSet) : ClassSet :=
  match s with
  | .nothing => part
  | s => .beside s part

/-- The characters of a class, if it is allowed. -/
def ranges? (x : Letters) : ClassSet → Option Ranges
  | .nothing => some []
  | .range low high => if x.ascii && 0x80 ≤ high then none else some [(low, high)]
  | .known negated k => x.turned? negated (k.ranges x.ascii)
  | .named negated rs => x.closed? negated rs
  | .property negated s => if x.ascii then none else x.closed? negated s.ranges
  | .brackets negated inner => (inner.ranges? x).bind (x.closed? negated)
  | .beside a b => do
    let a ← a.ranges? x
    let b ← b.ranges? x
    some (a.union b)
  | .combined c left right => do
    let left ← left.ranges? x
    let right ← right.ranges? x
    some (c.of (x.widened left) (x.widened right))

/-- How deeply a class is nested: brackets, combinations and parts side by side make a level each.
Parts beside each other share one, which `shared` says is counted already. -/
def depthWithin (shared : Bool) : ClassSet → Nat
  | .nothing | .range .. | .known .. | .named .. | .property .. => 0
  | .brackets _ inner => inner.depthWithin false + 1
  | .beside a b => max (a.depthWithin true) (b.depthWithin true) + if shared then 0 else 1
  | .combined _ left right => max (left.depthWithin false) (right.depthWithin false) + 1

/-- How deeply a class is nested. -/
def depth (s : ClassSet) : Nat := s.depthWithin false

end ClassSet

/-- The sets of ASCII characters that have a name. -/
def namedRanges : List (String × Ranges) :=
  [("alnum", [(0x30, 0x39), (0x41, 0x5a), (0x61, 0x7a)]),
   ("alpha", [(0x41, 0x5a), (0x61, 0x7a)]),
   ("ascii", [(0x00, 0x7f)]),
   ("blank", [(0x09, 0x09), (0x20, 0x20)]),
   ("cntrl", [(0x00, 0x1f), (0x7f, 0x7f)]),
   ("digit", [(0x30, 0x39)]),
   ("graph", [(0x21, 0x7e)]),
   ("lower", [(0x61, 0x7a)]),
   ("print", [(0x20, 0x7e)]),
   ("punct", [(0x21, 0x2f), (0x3a, 0x40), (0x5b, 0x60), (0x7b, 0x7e)]),
   ("space", [(0x09, 0x0d), (0x20, 0x20)]),
   ("upper", [(0x41, 0x5a)]),
   ("word", [(0x30, 0x39), (0x41, 0x5a), (0x5f, 0x5f), (0x61, 0x7a)]),
   ("xdigit", [(0x30, 0x39), (0x41, 0x46), (0x61, 0x66)])]

end Logbook.Pattern
