/-
# Escapes

A backslash in a pattern makes a mark stand for itself, or a letter stand for a character that is
hard to write, for a set of characters, or for a condition on a place. Characters can also be given
by their code points in hexadecimal, and sets by properties of their characters. Whatever else
follows a backslash is refused.

Key definitions: `Known`, `Escaped`, `Escaped.read?`.
-/
import Logbook.Pattern
import Logbook.Text.Query
import Logbook.Text.Spaced

namespace Logbook.Pattern

open Text (CodeSet Ranges)

/-- The sets of characters that letters stand for, of every script or of ASCII alone. -/
inductive Known where
  | digit
  | word
  | blank
  deriving DecidableEq

/-- The characters of a set that a letter stands for. -/
def Known.ranges (ascii : Bool) : Known → Ranges
  | .digit => if ascii then [(0x30, 0x39)] else digitRanges
  | .word => if ascii then [(0x30, 0x39), (0x41, 0x5a), (0x5f, 0x5f), (0x61, 0x7a)] else wordRanges
  | .blank => if ascii then [(0x09, 0x0d), (0x20, 0x20)] else Text.blankRanges

/-- What an escape stands for. -/
inductive Escaped where
  | char (c : Char)
  /-- A character that is given by two hexadecimal digits. -/
  | byte (c : Char)
  /-- A set that a letter stands for, or everything else. -/
  | known (negated : Bool) (k : Known)
  /-- The characters with a property, or all others. -/
  | property (negated : Bool) (s : CodeSet)
  | place (p : Bool → Place)

namespace Escaped

/-- The character with a code point that is given in hexadecimal. -/
def charOfHex? (ds : List Char) : Option Char :=
  match Text.hexNumber? ds with
  | some n => if Nat.isValidChar n then some (Char.ofNat n) else none
  | none => none

/-- The character whose code point is given by `count` digits or by digits in braces. -/
def hexChar? (spaced : Bool) (count : Nat) (cs : List Char) : Option (Escaped × List Char) :=
  match Text.Spaced.skip spaced cs with
  | '\x7b' :: rest =>
    match Text.Spaced.gather spaced (· = '\x7d') rest with
    | (ds, _ :: rest) => (charOfHex? ds).map fun c => (.char c, rest)
    | (_, []) => none
  | cs =>
    let r := Text.Spaced.gatherSome spaced count cs
    if r.1.length < count then none
    else (charOfHex? r.1).map fun c => (if count = 2 then .byte c else .char c, r.2)

/-- The first of some signs that stands in a text, and what is before and after it. -/
def cutAtSign? (signs : List String) (cs : List Char) : Option (String × List Char × List Char) :=
  signs.findSome? fun sign =>
    (List.range cs.length).findSome? fun i =>
      if sign.toList.isPrefixOf (cs.drop i) then
        some (sign, cs.take i, cs.drop (i + sign.length))
      else none

/-- The characters with a property: one that they have or not, or one that has a value, which a
sign in front of the value may turn around. -/
def property? (negated : Bool) (cs : List Char) : Option Escaped :=
  match cutAtSign? ["!=", ":", "="] cs with
  | some (sign, name, value) =>
    (CodeSet.valued? name value).map fun s => .property (negated != (sign == "!=")) s
  | none => (CodeSet.named? cs).map fun s => .property negated s

/-- The characters with the property whose name, a letter or some in braces, starts here. -/
def readProperty? (spaced negated : Bool) (cs : List Char) : Option (Escaped × List Char) :=
  match Text.Spaced.skip spaced cs with
  | '\x7b' :: rest =>
    match Text.Spaced.gather spaced (· = '\x7d') rest with
    | (name, _ :: rest) => (property? negated name).map fun e => (e, rest)
    | (_, []) => none
  | '\\' :: _ => none
  | c :: rest => (property? negated [c]).map fun e => (e, rest)
  | [] => none

/-- The sets of characters that letters stand for. -/
def sets : List (Char × Bool × Known) :=
  [('d', false, .digit), ('D', true, .digit), ('w', false, .word), ('W', true, .word),
   ('s', false, .blank), ('S', true, .blank)]

/-- The characters that letters stand for. -/
def chars : List (Char × Char) :=
  [('n', '\n'), ('t', '\t'), ('r', '\r'), ('a', '\x07'), ('f', '\x0c'), ('v', '\x0b')]

/-- The conditions on places that letters and marks stand for; those on words depend on whether
ASCII alone makes words. -/
def places : List (Char × (Bool → Place)) :=
  [('B', .noWordEdge), ('A', fun _ => .start), ('z', fun _ => .finish), ('<', .wordStart),
   ('>', .wordEnd)]

/-- The conditions that a name in braces after the letter `b` stands for. -/
def wordPlaces : List (String × (Bool → Place)) :=
  [("start", .wordStart), ("end", .wordEnd), ("start-half", .noWordBefore),
   ("end-half", .noWordAfter)]

/-- The condition that the letter `b` stands for. Braces after it hold a name if they start like
one, and are left to be read as a repetition if they do not. -/
def wordPlace? (spaced : Bool) : List Char → Option ((Bool → Place) × List Char)
  | '\x7b' :: rest =>
    match Text.Spaced.gather spaced (fun c => !c.isAlpha && c ≠ '-') rest with
    | ([], []) => none
    | ([], _ :: _) => some (.wordEdge, '\x7b' :: rest)
    | (name, '\x7d' :: rest) => (wordPlaces.lookup (String.ofList name)).map fun p => (p, rest)
    | _ => none
  | cs => some (.wordEdge, cs)

/-- Whether a backslash makes a character stand for itself. -/
def isMark (c : Char) : Bool := c.toNat < 0x80 && !c.isAlphanum && c ≠ '<' && c ≠ '>'

/-- Reads an escape whose backslash has been read. -/
def read? (spaced : Bool) : List Char → Option (Escaped × List Char)
  | [] => none
  | 'x' :: rest => hexChar? spaced 2 rest
  | 'u' :: rest => hexChar? spaced 4 rest
  | 'U' :: rest => hexChar? spaced 8 rest
  | 'p' :: rest => readProperty? spaced false rest
  | 'P' :: rest => readProperty? spaced true rest
  | 'b' :: rest => (wordPlace? spaced rest).map fun r => (.place r.1, r.2)
  | c :: rest =>
    if isMark c then some (.char c, rest)
    else
      match sets.lookup c, chars.lookup c, places.lookup c with
      | some k, _, _ => some (.known k.1 k.2, rest)
      | _, some d, _ => some (.char d, rest)
      | _, _, some p => some (.place p, rest)
      | none, none, none => none

end Escaped

end Logbook.Pattern
