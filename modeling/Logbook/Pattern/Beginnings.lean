/-
# Beginnings

What a stretch that fits a pattern may begin with is held as a list of byte strings, in the order
in which the pattern prefers them. A string is exact if it is all of the stretch. Only so much is
held: a class with many characters, or strings that become too many, give up what can be known,
strings that become too long are cut, and what is repeated is followed a few times.

Key definitions: `Beginning`, `Beginnings`, `Beginnings.cross`, `Beginnings.union`,
`Pattern.beginnings`.
-/
import Logbook.Pattern.Fold

namespace Logbook.Pattern

open Text (Ranges)

/-- What a stretch may begin with. -/
structure Beginning where
  bytes : List UInt8
  /-- Whether the stretch goes no further. -/
  exact : Bool
  deriving DecidableEq

namespace Beginning

/-- A beginning that is more than its bytes may be. -/
def inexact (b : Beginning) : Beginning := { b with exact := false }

/-- A beginning with at most `n` bytes. -/
def cut (n : Nat) (b : Beginning) : Beginning :=
  let bytes := b.bytes.take n
  if bytes.length < b.bytes.length then ⟨bytes, false⟩ else b

end Beginning

/-- All that a stretch may begin with, the first choice first; nothing is known of it if there is no
list. -/
abbrev Beginnings : Type := Option (List Beginning)

namespace Beginnings

/-- The most strings that are held. -/
def mostStrings : Nat := 250

/-- The most bytes of a string. -/
def mostBytes : Nat := 100

/-- The most characters of a class that are held one by one. -/
def mostCharacters : Nat := 10

/-- The most times that a repetition is followed. -/
def mostTimes : Nat := 10

/-- The number of bytes that are kept if this makes room for more strings. -/
def keptBytes : Nat := 4

/-- The stretch that is empty. -/
def empty : Beginnings := some [⟨[], true⟩]

/-- Strings with every run of equal ones as one. It is exact if all of them are. -/
def joinRuns : List Beginning → List Beginning
  | [] => []
  | b :: bs =>
    match joinRuns bs with
    | c :: cs => if b.bytes = c.bytes then ⟨b.bytes, b.exact && c.exact⟩ :: cs else b :: c :: cs
    | [] => [b]

/-- Beginnings that are more than their bytes may be. -/
def inexact (s : Beginnings) : Beginnings := s.map fun bs => bs.map .inexact

/-- Beginnings with at most `n` bytes. -/
def cut (n : Nat) (s : Beginnings) : Beginnings := s.map fun bs => bs.map (.cut n)

/-- Whether all strings are exact. -/
def isExact (s : Beginnings) : Bool := s.any fun bs => bs.all fun b => b.exact

/-- Whether nothing that follows can make a difference. -/
def isSettled (s : Beginnings) : Bool := s.all fun bs => bs.all fun b => !b.exact

/-- Whether some string is empty. -/
def hasEmpty (bs : List Beginning) : Bool := bs.any fun b => b.bytes.isEmpty

/-- Beginnings of two stretches in a row. -/
def cross (s t : Beginnings) : Beginnings :=
  let unknown (bs : List Beginning) : Beginnings :=
    if hasEmpty bs then none else some (bs.map .inexact)
  let crossed : Beginnings :=
    match s, t with
    | none, _ => none
    | some bs, none => unknown bs
    | some bs, some cs =>
      if mostStrings < bs.length * cs.length then unknown bs
      else
        some (joinRuns (bs.flatMap fun b =>
          if b.exact then cs.map fun c => ⟨b.bytes ++ c.bytes, c.exact⟩ else [b]))
  crossed.cut mostBytes

/-- Beginnings of one stretch or another. -/
def union (s t : Beginnings) : Beginnings :=
  let short (bs : List Beginning) : List Beginning := joinRuns (bs.map (.cut keptBytes))
  match s, t with
  | some bs, some cs =>
    if bs.length + cs.length ≤ mostStrings then some (joinRuns (bs ++ cs))
    else
      let bs := short bs
      let cs := short cs
      if bs.length + cs.length ≤ mostStrings then some (joinRuns (bs ++ cs)) else none
  | _, _ => none

/-- Beginnings of stretches in a row. -/
def row (parts : List Beginnings) : Beginnings :=
  parts.foldl (fun s t => if s.isSettled then s else s.cross t) empty

/-- Beginnings of any of several stretches. -/
def choice (alternatives : List Beginnings) : Beginnings := alternatives.foldl union (some [])

/-- Beginnings of a repetition. -/
def times (s : Beginnings) (least : Nat) (most : Option Nat) (short : Bool) : Beginnings :=
  if least = 0 then
    let s := if most = some 1 then s else s.inexact
    if short then empty.union s else s.union empty
  else
    let r := row (.replicate (min least mostTimes) s)
    if most = some least ∧ least ≤ mostTimes then r else r.inexact

/-- Beginnings of a character of a set. -/
def set (k : Ranges) : Beginnings :=
  let sizes := k.map fun r => r.2 - r.1 + 1
  if mostCharacters < sizes.foldr (· + ·) 0 then none
  else
    some (k.flatMap fun r => (List.range (r.2 - r.1 + 1)).map fun i =>
      ⟨Text.encodeChar (Char.ofNat (r.1 + i)), true⟩)

/-- Beginnings of a word. -/
def word (bytes : List UInt8) : Beginnings := cut mostBytes (some [⟨bytes, true⟩])

/-- How the beginnings of a pattern are made from those of its parts. -/
def fold : Fold Beginnings where
  word := word
  set := set
  place _ := empty
  row := row
  choice := choice
  times := times
  group s := s

end Beginnings

/-- What a stretch that fits a pattern may begin with. -/
def beginnings (p : Pattern) : Beginnings := Beginnings.fold.of p

end Logbook.Pattern
