/-
# Running patterns

A pattern runs over a text from its first place to its last and leaves marks on its parts: a
character of the pattern is marked if some stretch that fits so far has just come to it. At every
place the marks move on. What is marked leads, through empty stretches that fit at that place, to
characters of the pattern that may come next, and those that match the next character of the text
are marked then. The run has found a stretch that fits when the marks lead to the end of the
pattern. As a stretch may start anywhere, the start of the pattern is entered at every place.

A part that carries no marks and is not entered is left as it is, so the copies that a counted
repetition stands for cost nothing until the run has come to them.

Key definitions: `Marked`, `Marked.exits`, `Marked.step`, `Pattern.isIn`.
-/
import Logbook.Pattern

namespace Logbook.Pattern

open Text (Ranges)

/-- A pattern with marks on its characters. Parts say whether there are marks in them. -/
inductive Marked where
  | empty
  | one (k : Ranges) (marked : Bool)
  | place (p : Place)
  | both (active : Bool) (first second : Marked)
  | either (active : Bool) (first second : Marked)
  /-- Any number of stretches in a row. -/
  | star (active : Bool) (inner : Marked)

namespace Marked

/-- Whether there are marks in a pattern. -/
def isActive : Marked → Bool
  | .empty | .place _ => false
  | .one _ marked => marked
  | .both active _ _ | .either active _ _ | .star active _ => active

/-- One pattern and then another. -/
def andThen (a b : Marked) : Marked := .both (a.isActive || b.isActive) a b

/-- A choice between two patterns. -/
def orElse (a b : Marked) : Marked := .either (a.isActive || b.isActive) a b

/-- Any number of stretches in a row. -/
def many (a : Marked) : Marked := .star a.isActive a

/-- Exactly `n` stretches in a row, in two halves that are alike. -/
def power (a : Marked) (n : Nat) : Marked :=
  if h : n = 0 then .empty
  else
    let half := power a (n / 2)
    let even := half.andThen half
    if n = 1 then a else if n % 2 = 1 then a.andThen even else even
  termination_by n
  decreasing_by omega

/-- A pattern without marks. -/
def ofPattern : Pattern → Marked
  | .empty => .empty
  | .one k => .one k false
  | .place p => .place p
  | .both a b => (ofPattern a).andThen (ofPattern b)
  | .either a b => (ofPattern a).orElse (ofPattern b)
  | .times p least most _ =>
    let once := ofPattern p
    let more := match most with
      | some m => power (orElse .empty once) (m - least)
      | none => once.many
    (power once least).andThen more
  | .group _ p => ofPattern p

/-- Whether the end of a pattern is reached at a place, from its marks or from its start if the
pattern is entered there. -/
def exits (fits : Place → Bool) (entered : Bool) (m : Marked) : Bool :=
  if !entered && !m.isActive then false
  else
    match m with
    | .empty => entered
    | .one _ marked => marked
    | .place p => entered && fits p
    | .both _ a b => b.exits fits (a.exits fits entered)
    | .either _ a b => a.exits fits entered || b.exits fits entered
    | .star _ a => entered || a.exits fits false

/-- Moves the marks on at a place that has the character `next` after it. Also says whether the end
of the pattern is reached at that place. -/
def step (fits : Place → Bool) (next : Char) (entered : Bool) (m : Marked) : Marked × Bool :=
  if !entered && !m.isActive then (m, false)
  else
    match m with
    | .empty => (.empty, entered)
    | .one k marked => (.one k (entered && k.holds next.toNat), marked)
    | .place p => (.place p, entered && fits p)
    | .both _ a b =>
      let first := a.step fits next entered
      let second := b.step fits next first.2
      (first.1.andThen second.1, second.2)
    | .either _ a b =>
      let first := a.step fits next entered
      let second := b.step fits next entered
      (first.1.orElse second.1, first.2 || second.2)
    | .star _ a =>
      let again := entered || a.exits fits false
      ((a.step fits next again).1.many, again)

/-- Runs a pattern over a text, given the character before it: whether a stretch is found that
fits. -/
def run (before : Option Char) (m : Marked) : List Char → Bool
  | [] => m.exits (Place.fits before none) true
  | c :: cs =>
    let moved := m.step (Place.fits before (some c)) c true
    moved.2 || run (some c) moved.1 cs

end Marked

/-- Whether some stretch of a text fits. -/
def isIn (p : Pattern) (s : String) : Bool := (Marked.ofPattern p).run none s.toList

end Logbook.Pattern
