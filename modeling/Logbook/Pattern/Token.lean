/-
# The words of a pattern

A written pattern is cut into characters, classes, conditions on places, brackets, bars,
repetitions and switches. What a letter or a dot means may depend on the switches, which the
cutter leaves to the reader of the words. It follows only the one that allows blanks and remarks
between the words; like every switch it holds up to the end of the group that it stands in.

Key definitions: `PatternToken`, `Switches`, `PatternToken.list?`.
-/
import Logbook.Pattern.Brackets
import Logbook.Text.Letter

namespace Logbook

/-- What switches turn on and off. -/
structure Switches where
  /-- Letter case does not matter. -/
  anyCase : Bool
  /-- A condition on the ends of the text holds at the ends of its lines too. -/
  lines : Bool
  /-- A dot stands for a line end too. -/
  dotAll : Bool
  /-- A carriage return ends lines too. -/
  returns : Bool
  /-- Repetitions try few stretches before many unless they are marked. -/
  swapped : Bool
  /-- There are no characters but those of ASCII. -/
  ascii : Bool
  /-- Blanks and remarks between words mean nothing. -/
  spaced : Bool
  deriving DecidableEq

/-- The switches of a pattern that has none. -/
def Switches.none : Switches := ⟨false, false, false, false, false, false, false⟩

/-- A word of a written pattern. -/
inductive PatternToken where
  | char (c : Char)
  /-- A character that is given by two hexadecimal digits. -/
  | byte (c : Char)
  | dot
  | caret
  | dollar
  | class (s : Pattern.ClassSet)
  /-- A condition on a place; whether ASCII alone makes words may change it. -/
  | place (p : Bool → Place)
  /-- The start of a group that is marked as a part of its own, with its name. -/
  | openGroup (name : Option String)
  /-- The start of a group that is not, with the switches it turns. -/
  | openSwitched (turn : Switches → Switches)
  | closeGroup
  | bar
  /-- A repetition of what stands before it. The mark `short` asks to try few stretches before
  many. -/
  | times (least : Nat) (most : Option Nat) (short : Bool)
  /-- Switches for the rest of the group. -/
  | switches (turn : Switches → Switches)

namespace PatternToken

open Pattern (ClassSet Escaped)

/-- The number that a text starts with; blanks may stand around it. -/
def number? (spaced : Bool) (cs : List Char) : Option (Nat × List Char) :=
  let (ds, rest) := Text.Spaced.gather spaced (fun c => !c.isDigit) (Text.trimStart cs)
  let n := ds.foldl (fun n c => n * 10 + (c.toNat - 48)) 0
  if ds.isEmpty || UInt32.size ≤ n then none
  else some (n, Text.Spaced.skip spaced (Text.trimStart rest))

/-- The repetition whose opening brace has been read, and the rest after its closing one. -/
def bounds? (spaced : Bool) (cs : List Char) : Option ((Nat × Option Nat) × List Char) :=
  match number? spaced (Text.Spaced.skip spaced cs) with
  | some (n, '\x7d' :: rest) => some ((n, some n), rest)
  | some (n, ',' :: rest) =>
    match Text.Spaced.skip spaced rest with
    | '\x7d' :: rest => some ((n, none), rest)
    | rest =>
      match number? spaced rest with
      | some (m, '\x7d' :: rest) => if n ≤ m then some ((n, some m), rest) else none
      | _ => none
  | _ => none

/-- A repetition with its bounds; a question mark after it asks for short stretches. -/
def repetition (bounds : Nat × Option Nat) : List Char → PatternToken × List Char
  | '?' :: rest => (.times bounds.1 bounds.2 true, rest)
  | rest => (.times bounds.1 bounds.2 false, rest)

/-- The word that an escape stands for. -/
def ofEscaped : Escaped → PatternToken
  | .char c => .char c
  | .byte c => .byte c
  | .known negated k => .class (.known negated k)
  | .property negated s => .class (.property negated s)
  | .place p => .place p

/-- Turns one switch on or off. -/
def turnSwitch? (on : Bool) (c : Char) : Option (Switches → Switches) :=
  if c = 'i' then some fun s => { s with anyCase := on }
  else if c = 'm' then some fun s => { s with lines := on }
  else if c = 's' then some fun s => { s with dotAll := on }
  else if c = 'R' then some fun s => { s with returns := on }
  else if c = 'U' then some fun s => { s with swapped := on }
  else if c = 'u' then some fun s => { s with ascii := !on }
  else if c = 'x' then some fun s => { s with spaced := on }
  else none

/-- Reads switches up to the end of the group head: what they turn, whether a group follows,
and the rest. A switch stands only once, and a minus has to be followed by one. -/
def turns? (seen : List Char) (on : Bool) (turn : Switches → Switches) :
    List Char → Option ((Switches → Switches) × Bool × List Char)
  | [] => none
  | c :: rest =>
    if c = ')' || c = ':' then
      if seen.head? = some '-' || (c = ')' && seen.isEmpty) then none
      else some (turn, c = ':', rest)
    else if seen.contains c then none
    else if c = '-' then turns? (c :: seen) false turn rest
    else
      match turnSwitch? on c with
      | some t => turns? (c :: seen) on (t ∘ turn) rest
      | none => none

/-- Whether a character may be part of the name of a group, at its start or later. -/
def isNameChar (first : Bool) (c : Char) : Bool :=
  c = '_' || Text.isLetter c ||
    (!first && (Text.isNumeral c || c = '.' || c = '[' || c = ']'))

/-- The group whose name starts here. -/
def named? (cs : List Char) : Option (PatternToken × List Char) :=
  let name := cs.takeWhile (· ≠ '>')
  match name, cs.drop name.length with
  | c :: more, '>' :: rest =>
    if isNameChar true c && more.all (isNameChar false) then
      some (.openGroup (some (String.ofList name)), rest)
    else none
  | _, _ => none

/-- The group or switches whose opening parenthesis has been read. -/
def group? (cs : List Char) : Option (PatternToken × List Char) :=
  match cs with
  | '?' :: 'P' :: '<' :: rest => named? rest
  | '?' :: '<' :: rest => named? rest
  | '?' :: rest =>
    (turns? [] true id rest).map fun r =>
      (if r.2.1 then .openSwitched r.1 else .switches r.1, r.2.2)
  | _ => some (.openGroup none, cs)

/-- The word at the start of a text. -/
def next? (spaced : Bool) (c : Char) (rest : List Char) : Option (PatternToken × List Char) :=
  if c = '.' then some (.dot, rest)
  else if c = '^' then some (.caret, rest)
  else if c = '$' then some (.dollar, rest)
  else if c = '|' then some (.bar, rest)
  else if c = '*' then some (repetition (0, none) rest)
  else if c = '+' then some (repetition (1, none) rest)
  else if c = '?' then some (repetition (0, some 1) rest)
  else if c = '\x7b' then
    (bounds? spaced rest).map fun r => repetition r.1 (Text.Spaced.skip spaced r.2)
  else if c = '[' then (ClassSet.read? spaced rest).map fun r => (.class r.1, r.2)
  else if c = '(' then group? (Text.Spaced.skip spaced rest)
  else if c = ')' then some (.closeGroup, rest)
  else if c = '\\' then (Escaped.read? spaced rest).map fun r => (ofEscaped r.1, r.2)
  else some (.char c, rest)

/-- Whether words may be spaced after a word, inside the group that it leaves open and in the ones
around it. -/
def spacing (spaced : Bool) (around : List Bool) (t : PatternToken) : Bool × List Bool :=
  let turned (turn : Switches → Switches) : Bool := (turn { Switches.none with spaced }).spaced
  match t with
  | .openGroup _ => (spaced, spaced :: around)
  | .openSwitched turn => (turned turn, spaced :: around)
  | .switches turn => (turned turn, around)
  | .closeGroup => (around.headD spaced, around.tail)
  | _ => (spaced, around)

/-- Cuts a written pattern; `spaced` says whether words may be spaced, and `around` whether they may
be in the groups around; `fuel` bounds the number of words. -/
def cut? (spaced : Bool) (around : List Bool) : Nat → List Char → Option (List PatternToken)
  | 0, cs => if (Text.Spaced.skip spaced cs).isEmpty then some [] else none
  | fuel + 1, cs =>
    match Text.Spaced.skip spaced cs with
    | [] => some []
    | c :: rest =>
      match next? spaced c rest with
      | some (t, rest) =>
        let after := spacing spaced around t
        (cut? after.1 after.2 fuel rest).map fun ts => t :: ts
      | none => none

/-- The words of a written pattern. -/
def list? (s : String) : Option (List PatternToken) := cut? false [] s.length s.toList

end PatternToken

end Logbook
