/-
# The size of patterns

A pattern is only accepted if a machine that runs it stays within a budget, unless no machine is
needed. The machine reads bytes, and a counted repetition holds as many copies of what it repeats
as it counts. A machine that reads texts from their ends has to stay within the budget as well. It
needs no states for the marks of groups, and its parts are made in the opposite order.

Key definitions: `Pattern.plan`, `Pattern.fitsBudget`, `Pattern.isRunnable`.
-/
import Logbook.Pattern.Needles
import Logbook.Pattern.Plan

namespace Logbook.Pattern

open Text (Ranges)

/-- The sum of some numbers. -/
def total (ns : List Nat) : Nat := ns.foldr (· + ·) 0

/-- Words up to each end of a word, and those after the last one. -/
def runs (words : List (List UInt8)) : List (List (List UInt8)) :=
  words.foldr (fun w runs =>
    if w.isEmpty then [] :: runs
    else
      match runs with
      | run :: runs => (w :: run) :: runs
      | [] => [[w]]) [[]]

/-- Words that start alike, without their first bytes, in the order of these. -/
def branches (words : List (List UInt8)) : List (List (List UInt8)) :=
  let sorted := words.mergeSort fun v w => v.head?.getD 0 ≤ w.head?.getD 0
  (sorted.splitBy fun v w => v.head? == w.head?).map fun g => g.map fun w => w.drop 1

/-- The states and the bytes of ways that words take which share what they start with; `n` bounds
the length of the words. If anything follows, there is a state for all that does and one for each
run of words that goes on. Ends of words in front of everything else count once. -/
def wordStates : Nat → List (List UInt8) → Nat × Nat
  | 0, _ => (0, 0)
  | n + 1, words =>
    let later := words.dropWhile List.isEmpty
    if later.isEmpty then (0, 0)
    else
      let all := runs later
      let used := (all.filter fun run => !run.isEmpty).map branches
      let steps := used.map fun run =>
        if run.length = 1 then 0 else MachineSize.stepBytes * run.length
      let ends := all.length - 1 + if later.length < words.length then 1 else 0
      let inner := used.flatten.map (wordStates n)
      (1 + used.length + total (inner.map Prod.fst),
        MachineSize.jumpBytes * (used.length + ends) + total steps + total (inner.map Prod.snd))

/-- The plan for words that share what they start with. -/
def Plan.ofWords (words : List (List UInt8)) : Plan :=
  let longest := words.foldl (fun n w => max n w.length) 0
  let size := wordStates (longest + 1) words
  .states (1 + size.1) size.2

/-- The plan for a set that has not just one character. -/
def Plan.ofSet (backward : Bool) (k : Ranges) : Plan :=
  if k.all fun r => r.2 < 0x80 then .states 2 (MachineSize.stepBytes * k.length)
  else
    let strings := spellingsOf k
    if backward then .backward strings else .forward (.ofStrings strings)

/-- A state with two ways on. -/
def Plan.fork : Plan := .states 1 (2 * MachineSize.jumpBytes)

/-- A plan between the marks of a group. -/
def Plan.marked (backward : Bool) (p : Plan) : Plan :=
  let mark := .states (if backward then 0 else 1) 0
  .all [mark, p, mark]

/-- What is known of a part of a pattern that is being planned. -/
structure Draft where
  plan : Plan
  /-- The bytes of the word that the part is, if it is one. -/
  word : Option (List UInt8)
  /-- Whether a stretch that fits has a character in any case; nothing is said of parts in which
  some set has no characters. -/
  takesSome : Option Bool

namespace Draft

/-- A row of parts. -/
def row (backward : Bool) (parts : List Draft) : Draft where
  plan :=
    if parts.isEmpty then .states 1 0
    else .all ((if backward then parts.reverse else parts).map Draft.plan)
  word := none
  takesSome := (parts.mapM Draft.takesSome).map fun bs => bs.any id

/-- A choice between parts. -/
def choice (backward : Bool) (alternatives : List Draft) : Draft where
  plan :=
    match alternatives.mapM Draft.word with
    | some words => .ofWords (if backward then words.map List.reverse else words)
    | none =>
      let plans := alternatives.map Draft.plan
      let jumps := MachineSize.jumpBytes * alternatives.length
      .all (plans.take 2 ++ .states 2 jumps :: plans.drop 2)
  word := none
  takesSome := (alternatives.mapM Draft.takesSome).map fun bs => bs.all id

/-- The plan for a part several times in a row. -/
def repeatedPlan (p : Draft) (least : Nat) : Option Nat → Plan
  | none =>
    if 0 < least then .andThen (.copies least p.plan) .fork
    else if p.takesSome = some true then .andThen .fork p.plan
    else .all [p.plan, .fork, .fork, .states 1 0]
  | some most =>
    if least = most then .copies least p.plan
    else if least = 0 ∧ most = 1 then .all [.fork, p.plan, .states 1 0]
    else
      let first := if least = 0 then .states 1 0 else .copies least p.plan
      .all [first, .states 1 0, .copies (most - least) (.andThen .fork p.plan)]

/-- How a pattern is planned from its parts. -/
def fold (backward : Bool) : Fold Draft where
  word bytes := ⟨.states bytes.length 0, some bytes, some true⟩
  set k := ⟨.ofSet backward k, none, if k.isEmpty then none else some true⟩
  place _ := ⟨.states 1 0, none, some false⟩
  row := row backward
  choice := choice backward
  times p least most _ :=
    ⟨p.repeatedPlan least most, none, p.takesSome.map fun some => 0 < least && some⟩
  group p := ⟨.marked backward p.plan, none, p.takesSome⟩

end Draft

/-- The plan of a machine for a pattern. -/
def plan (backward : Bool) (p : Pattern) : Plan := ((Draft.fold backward).of p).plan

/-- Whether every stretch that fits starts where the text does. -/
def isAtStart : Pattern → Bool
  | .place p => p = .start
  | .both a b => a.isAtStart || (a.isEmptyOnly && b.isAtStart)
  | .either a b => a.isAtStart && b.isAtStart
  | .times p least _ _ => 0 < least && p.isAtStart
  | .group _ p => p.isAtStart
  | .empty | .one _ => false

/-- Whether every stretch that fits ends where the text does. -/
def isAtFinish : Pattern → Bool
  | .place p => p = .finish
  | .both a b => b.isAtFinish || (b.isEmptyOnly && a.isAtFinish)
  | .either a b => a.isAtFinish && b.isAtFinish
  | .times p least _ _ => 0 < least && p.isAtFinish
  | .group _ p => p.isAtFinish
  | .empty | .one _ => false

/-- The plan of a machine that looks for a pattern anywhere in a text: it skips what comes before,
unless the pattern says where it stands, and the whole match is marked like a group. -/
def searcher (backward : Bool) (p : Pattern) : Plan :=
  let fixed := if backward then p.isAtFinish else p.isAtStart
  let skip :=
    if fixed then .states 1 0
    else .states 3 (MachineSize.stepBytes + 2 * MachineSize.jumpBytes)
  .all [skip, (p.plan backward).marked backward, .states 1 0]

/-- The most bytes that a machine may take. -/
def budget : Nat := 10 * 1024 * 1024

/-- Whether the machines that look for a pattern stay within the budget. -/
def fitsBudget (p : Pattern) : Bool :=
  [false, true].all fun backward => ((p.searcher backward).count? budget .zero).isSome

/-- Whether a pattern can be looked for. -/
def isRunnable (p : Pattern) : Bool := p.isNeedles || p.fitsBudget

end Logbook.Pattern
