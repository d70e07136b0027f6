/-
# Putting patterns together

Patterns that are read are put together from their parts by operations that keep them small. Empty
stretches in a sequence are left out, and a sequence in a sequence is part of it. A choice between
single characters is a character of the union, and so is a choice between sets. What all
alternatives of a choice start with is taken out of it; there a word, characters in a row, is
taken as a whole or not at all. A repetition of what is always empty is done at most once, and
what is done exactly once or never is no repetition.

Key definitions: `Pattern.sequence`, `Pattern.choice`, `Pattern.repeated`.
-/
import Logbook.Pattern

namespace Logbook.Pattern

open Text (Ranges)

/-- Whether only empty stretches fit. -/
def isEmptyOnly : Pattern → Bool
  | .empty | .place _ => true
  | .one _ => false
  | .both a b | .either a b => a.isEmptyOnly && b.isEmptyOnly
  | .times p _ most _ => p.isEmptyOnly || most = some 0
  | .group _ p => p.isEmptyOnly

/-- The patterns that stand in a row; anything else stands alone. -/
def pieces : Pattern → List Pattern
  | .empty => []
  | .both a b => a.pieces ++ b.pieces
  | p => [p]

/-- A pattern and then others. -/
def row (p : Pattern) : List Pattern → Pattern
  | [] => p
  | q :: qs => .both p (row q qs)

/-- Patterns one after the other. -/
def sequence (ps : List Pattern) : Pattern :=
  match ps.flatMap pieces with
  | [] => .empty
  | p :: ps => row p ps

/-- The only code point of a set that has just one. -/
def only? : Ranges → Option Nat
  | [(low, high)] => if low = high then some low else none
  | _ => none

/-- The character that a pattern stands for, by its code point. -/
def char? : Pattern → Option Nat
  | .one k => only? k
  | _ => none

/-- The set of a pattern that stands for one character of a set which has not just one. -/
def set? : Pattern → Option Ranges
  | .one k => if (only? k).isSome then none else some k
  | _ => none

/-- The patterns that stand in a row, with the characters of a word in one piece. -/
def segments (p : Pattern) : List (List Pattern) :=
  p.pieces.splitBy fun a b => a.char?.isSome && b.char?.isSome

/-- What two lists start with. -/
def commonStart {α : Type} [DecidableEq α] : List α → List α → List α
  | a :: as, b :: bs => if a = b then a :: commonStart as bs else []
  | _, _ => []

/-- What several rows start with, none of which is a single piece. -/
def sharedStart : List (List (List Pattern)) → List (List Pattern)
  | [] => []
  | r :: rs =>
    if (r :: rs).any fun r => r.length < 2 then []
    else rs.foldl commonStart r

/-- The alternatives of a choice; anything else is its only alternative. -/
def alternatives : Pattern → List Pattern
  | .either a b => a.alternatives ++ b.alternatives
  | p => [p]

/-- A choice between a pattern and others. -/
def choiceFrom (p : Pattern) : List Pattern → Pattern
  | [] => p
  | q :: qs => .either p (choiceFrom q qs)

/-- The set that alternatives make together if all of them are characters or all are sets. -/
def merged? (ps : List Pattern) : Option Ranges :=
  match ps.mapM char? with
  | some ns => some (.ofList (ns.map fun n => (n, n)))
  | none => (ps.mapM set?).map fun ks => .ofList ks.flatten

/-- A choice between alternatives that start with nothing in common. -/
def plainChoice (ps : List Pattern) : Pattern :=
  match ps.flatMap alternatives with
  | [] => .empty
  | [p] => p
  | p :: ps =>
    match merged? (p :: ps) with
    | some k => .one k
    | none => choiceFrom p ps

/-- A choice between patterns; an empty stretch if there are none. -/
def choice (ps : List Pattern) : Pattern :=
  match plainChoice ps with
  | .either a b =>
    let rows := (Pattern.either a b).alternatives.map segments
    let start := sharedStart rows
    if start.isEmpty then .either a b
    else
      let rests := rows.map fun r => sequence (r.drop start.length).flatten
      sequence (start.flatten ++ [plainChoice rests])
  | p => p

/-- A pattern several times in a row. -/
def repeated (p : Pattern) (least : Nat) (most : Option Nat) (short : Bool) : Pattern :=
  let least := if p.isEmptyOnly then min least 1 else least
  let most := if p.isEmptyOnly then some (min (most.getD 1) 1) else most
  if most = some 0 then .empty
  else if least = 1 ∧ most = some 1 then p
  else .times p least most short

end Logbook.Pattern
