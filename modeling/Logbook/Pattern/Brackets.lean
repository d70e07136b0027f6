/-
# Brackets

How a class is written. A caret right after the opening bracket turns the class around, hyphens and
then one closing bracket stand for themselves there, and a hyphen between two characters makes a
range of them. A hyphen in front of the closing bracket or of another hyphen makes no range: two
hyphens, two ampersands and two tildes each combine what stands before them with what comes up to
the next of these signs. Inside the outermost brackets, a name between colons and brackets stands
for a set of ASCII characters; what only looks like one is read as brackets inside brackets.

Key definitions: `ClassSet.read?`.
-/
import Logbook.Pattern.Class

namespace Logbook.Pattern.ClassSet

open Text (Spaced.skip Spaced.ahead?)

/-- A character or a set, as it may stand in brackets. -/
def member? (spaced : Bool) : List Char → Option ((ClassSet ⊕ Char) × List Char)
  | [] => none
  | '\\' :: rest =>
    match Escaped.read? spaced rest with
    | some (.char c, rest) | some (.byte c, rest) => some (.inr c, rest)
    | some (.known negated k, rest) => some (.inl (.known negated k), rest)
    | some (.property negated s, rest) => some (.inl (.property negated s), rest)
    | _ => none
  | c :: rest => some (.inr c, rest)

/-- A part of a class. -/
def part : ClassSet ⊕ Char → ClassSet
  | .inl s => s
  | .inr c => single c

/-- The part that starts here: a member, or the range that a hyphen makes of two characters. -/
def part? (spaced : Bool) (cs : List Char) : Option (ClassSet × List Char) :=
  match member? spaced cs with
  | none => none
  | some (first, rest) =>
    match Spaced.skip spaced rest with
    | '-' :: after =>
      if Spaced.ahead? spaced after = some ']' || Spaced.ahead? spaced after = some '-' then
        some (part first, '-' :: after)
      else
        match first, member? spaced (Spaced.skip spaced after) with
        | .inr c, some (.inr d, rest) =>
          if c.toNat ≤ d.toNat then some (.range c.toNat d.toNat, rest) else none
        | _, _ => none
    | rest => some (part first, rest)

/-- The named set whose opening bracket has been read. -/
def named? : List Char → Option (ClassSet × List Char)
  | ':' :: rest =>
    let negated := rest.head? = some '^'
    let rest := if negated then rest.drop 1 else rest
    let name := rest.takeWhile (· ≠ ':')
    match namedRanges.lookup (String.ofList name), rest.drop name.length with
    | some rs, ':' :: ']' :: rest => some (.named negated rs, rest)
    | _, _ => none
  | _ => none

/-- The hyphens that a text starts with, and the rest. -/
def hyphens (spaced : Bool) (cs : List Char) : ClassSet × List Char :=
  let r := Text.Spaced.gather spaced (· ≠ '-') cs
  (r.1.foldl (fun s c => s.add (single c)) .nothing, Spaced.skip spaced r.2)

/-- The start of brackets whose opening bracket has been read: whether a caret turns them around,
and the hyphens or the closing bracket that stand for themselves. -/
def opening (spaced : Bool) (cs : List Char) : Bool × ClassSet × List Char :=
  let cs := Spaced.skip spaced cs
  let negated := cs.head? = some '^'
  let cs := if negated then cs.drop 1 else cs
  match hyphens spaced cs with
  | (.nothing, ']' :: rest) => (negated, single ']', rest)
  | r => (negated, r)

/-- The contents of brackets up to the closing one: `left` puts what stands before the last sign
together with what comes after it, of which `seen` has been read; `fuel` bounds the number of
parts. -/
def contents? (spaced : Bool) : Nat → (left : ClassSet → ClassSet) → (seen : ClassSet) →
    List Char → Option (ClassSet × List Char)
  | 0, _, _, _ => none
  | fuel + 1, left, seen, cs =>
    match Spaced.skip spaced cs with
    | [] => none
    | c :: rest =>
      match c, rest with
      | ']', rest => some (left seen, rest)
      | '&', '&' :: rest => contents? spaced fuel (.combined .both (left seen)) .nothing rest
      | '-', '-' :: rest => contents? spaced fuel (.combined .without (left seen)) .nothing rest
      | '~', '~' :: rest => contents? spaced fuel (.combined .either (left seen)) .nothing rest
      | '[', rest =>
        match named? rest with
        | some (s, rest) => contents? spaced fuel left (seen.add s) rest
        | none =>
          let start := opening spaced rest
          match contents? spaced fuel id start.2.1 start.2.2 with
          | some (s, rest) =>
            contents? spaced fuel left (seen.add (.brackets start.1 s)) rest
          | none => none
      | c, rest =>
        match part? spaced (c :: rest) with
        | some (s, rest) => contents? spaced fuel left (seen.add s) rest
        | none => none

/-- The class whose opening bracket has been read. -/
def read? (spaced : Bool) (cs : List Char) : Option (ClassSet × List Char) :=
  let start := opening spaced cs
  (contents? spaced (cs.length + 1) id start.2.1 start.2.2).map fun r =>
    (.brackets start.1 r.1, r.2)

end Logbook.Pattern.ClassSet
