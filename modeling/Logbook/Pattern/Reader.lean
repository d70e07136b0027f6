/-
# Reading patterns

A pattern is put together from its words with a stack of the groups that are still open. A group
holds the alternatives that are complete and the parts of the one that is being read. A repetition
needs a part before it; the start of an alternative and switches are none. Groups that are marked
as parts of their own are numbered from one on, in the order in which they open. What is nested
too deeply, what stands for bytes that are no character, and what would take too much room when it
is run is refused.

Key definitions: `Pattern.Part`, `Pattern.Group`, `Pattern.build?`, `Pattern.read?`,
`Pattern.parse?`.
-/
import Logbook.Pattern.Budget
import Logbook.Pattern.Token

namespace Logbook.Pattern

/-- A part of a pattern that is being read. -/
structure Part where
  pattern : Pattern
  /-- How deeply the part is nested. -/
  depth : Nat
  /-- Whether the part can be repeated. -/
  repeatable : Bool

namespace Part

/-- A part that nothing is nested in. -/
def flat (p : Pattern) : Part := ⟨p, 0, true⟩

/-- What holds the place of switches. -/
def switches : Part := ⟨.empty, 0, false⟩

/-- A pattern made of several parts, which are nested one level deeper in it. -/
def combine (make : List Pattern → Pattern) (ps : List Part) : Part :=
  ⟨make (ps.map Part.pattern), (ps.map Part.depth).foldl max 0 + if 1 < ps.length then 1 else 0,
    true⟩

/-- A repeated part. -/
def repeat? (least : Nat) (most : Option Nat) (short : Bool) (p : Part) : Option Part :=
  if p.repeatable then some ⟨p.pattern.repeated least most short, p.depth + 1, true⟩ else none

end Part

/-- A group that is being read. -/
structure Group where
  /-- The switches in force. -/
  switches : Switches
  /-- The number of the group if it is marked as a part of its own. -/
  number : Option Nat
  /-- The alternatives that are complete, the latest first. -/
  complete : List Part
  /-- The parts of the alternative that is being read, the latest first. -/
  parts : List Part

namespace Group

/-- A group at its start. -/
def start (s : Switches) (number : Option Nat) : Group := ⟨s, number, [], []⟩

/-- A group with one more part. -/
def add (p : Part) (g : Group) : Group := { g with parts := p :: g.parts }

/-- A group whose alternative is complete. -/
def nextAlternative (g : Group) : Group :=
  { g with complete := .combine sequence g.parts.reverse :: g.complete, parts := [] }

/-- The choice between the alternatives of a group. -/
def contents (g : Group) : Part := .combine choice g.nextAlternative.complete.reverse

/-- The part that a group makes in the one around it. -/
def close (g : Group) : Part :=
  let p := g.contents
  ⟨g.number.elim p.pattern fun n => .group n p.pattern, p.depth + 1, true⟩

/-- A group whose latest part is repeated. -/
def repeatPart? (least : Nat) (most : Option Nat) (short : Bool) (g : Group) : Option Group :=
  match g.parts with
  | p :: ps =>
    (p.repeat? least most (short != g.switches.swapped)).map fun p => { g with parts := p :: ps }
  | [] => none

end Group

/-- How letters are taken under switches. -/
def letters (s : Switches) : Letters := ⟨s.anyCase, s.ascii⟩

/-- The characters that a dot does not stand for. -/
def notDot (s : Switches) : Text.Ranges :=
  if s.dotAll then []
  else if s.returns then .ofList [(0x0a, 0x0a), (0x0d, 0x0d)]
  else .single 0x0a

/-- What stands for a word that fills a place by itself, under the switches in force. -/
def atom? (s : Switches) : PatternToken → Option Part
  | .char c => some (.flat (.one ((letters s).variants c.toNat)))
  | .byte c =>
    if s.ascii && 0x80 ≤ c.toNat then none
    else some (.flat (.one ((letters s).variants c.toNat)))
  | .dot => ((letters s).turned? true (notDot s)).map fun k => .flat (.one k)
  | .caret =>
    some (.flat (.place
      (if !s.lines then .start else if s.returns then .returnStart else .lineStart)))
  | .dollar =>
    some (.flat (.place (if !s.lines then .finish else if s.returns then .returnEnd else .lineEnd)))
  | .class k => (k.ranges? (letters s)).map fun rs => ⟨.one rs.scalars, k.depth, true⟩
  | .place p => some (.flat (.place (p s.ascii)))
  | _ => none

/-- Reads the rest of the words, inside a group and the groups around it; `names` are the names
of groups so far, and `count` is how many are marked. -/
def build? (names : List String) (count : Nat) (g : Group) (around : List Group) :
    List PatternToken → Option Part
  | [] => if around.isEmpty then some g.contents else none
  | t :: ts =>
    match t with
    | .openGroup name =>
      let taken := name.any fun n => names.contains n
      if taken then none
      else
        let inner := .start g.switches (some (count + 1))
        build? (name.toList ++ names) (count + 1) inner (g :: around) ts
    | .openSwitched turn => build? names count (.start (turn g.switches) none) (g :: around) ts
    | .closeGroup =>
      match around with
      | outer :: around => build? names count (outer.add g.close) around ts
      | [] => none
    | .bar => build? names count g.nextAlternative around ts
    | .times least most short =>
      match g.repeatPart? least most short with
      | some g => build? names count g around ts
      | none => none
    | .switches turn =>
      build? names count (Group.add .switches { g with switches := turn g.switches }) around ts
    | t =>
      match atom? g.switches t with
      | some p => build? names count (g.add p) around ts
      | none => none

/-- How deeply a pattern may be nested. -/
def deepest : Nat := 250

/-- Reads a pattern, whether or not it can be run. -/
def read? (s : String) : Option Pattern :=
  match (PatternToken.list? s).bind (build? [] 0 (.start .none none) []) with
  | some p => if p.depth ≤ deepest then some p.pattern else none
  | none => none

/-- Reads a pattern that can be run. -/
def parse? (s : String) : Option Pattern := (read? s).filter isRunnable

end Logbook.Pattern
