/-
# Filter directives

The backend asks a list of directives which events it carries. A directive gives the least important
level that is still carried, for all targets or for those that start with a given text, and of these
for all events or for those with a given field. The longest such text decides, and of the directives
for the same text one with a field; a later directive for the same events replaces an earlier one.
Events that no directive is about are not carried.

Directives are written as a list with commas, each of them a level, a target, or both with an
equals sign between them. A target, or nothing, may be followed by brackets that hold the name of a
span, a condition on a field in braces, or one after the other. No event of this library lies in a
span, and a value of a field is only looked for in spans. Blanks around a directive do not hide it,
but they belong to its words and shift the places where these are cut. Places are counted in bytes,
so a cut may fall inside a character, which raises a message.

Key definitions: `Directive`, `Directive.parse`, `Directive.list`, `Directive.carries`,
`DirectiveFault`, `Level.backendName`, `Level.directives`.
-/
import Logbook.Directive.Field
import Logbook.Event
import Logbook.Text.Cut

namespace Logbook

/-- The name of the backend's threshold for a level. -/
def Level.backendName : Level → String
  | .off => "off"
  | .fatal | .error => "error"
  | .warning => "warn"
  | .info => "info"
  | .debug => "debug"
  | .trace | .traceAll => "trace"

/-- The directives of a facility whose surroundings give none: the level decides, and records are
carried in any case, since their sink has decided about them. -/
def Level.directives (l : Level) : String :=
  l.backendName ++ "," ++ Event.reportTarget ++ "=trace"

/-- Which events of some targets are carried. -/
structure Directive where
  /-- What the target starts with; every target if absent. -/
  target : Option String
  /-- The span that events have to lie in. -/
  span : Option String
  field : Option FieldCondition
  /-- The least important level that is carried; none if absent. -/
  least : Option EventLevel
  deriving DecidableEq

/-- Why directives cannot be read. -/
inductive DirectiveFault where
  | malformed
  /-- A cut of a text that falls inside a character; whether it is the start of a piece or its
  end. -/
  | broken (atStart : Bool) (cs : List Char) (cut : Text.BrokenCut)
  deriving DecidableEq

namespace Directive

/-- The thresholds by their names. -/
def names : List (String × Option EventLevel) :=
  [("error", some .error), ("warn", some .warn), ("info", some .info), ("debug", some .debug),
   ("trace", some .trace), ("off", none)]

/-- A number in decimal, with or without a plus sign. -/
def decimal? (cs : List Char) : Option Nat :=
  let ds := if cs.head? = some '+' then cs.drop 1 else cs
  if ds.isEmpty || ds.any fun c => !c.isDigit then none
  else some (ds.foldl (fun n c => n * 10 + (c.toNat - 48)) 0)

/-- The threshold with a number. -/
def ofNumber? : Nat → Option (Option EventLevel)
  | 0 => some none
  | 1 => some (some .error)
  | 2 => some (some .warn)
  | 3 => some (some .info)
  | 4 => some (some .debug)
  | 5 => some (some .trace)
  | _ => none

/-- Reads a threshold, by its number or by its name in any letter case. -/
def threshold? (cs : List Char) : Option (Option EventLevel) :=
  match (decimal? cs).bind ofNumber? with
  | some t => some t
  | none => names.lookup (String.ofList (cs.map Char.toLower))

/-- Whether a directive may start with a character. -/
def mayStart (c : Char) : Bool := c = '-' || c = ':' || c = '_' || Text.isNamePart c

/-- What stands between two places that are counted in bytes. -/
def between (start stop : Nat) (cs : List Char) : Except DirectiveFault (List Char) :=
  match Text.cutAt start cs, Text.cutAt stop cs with
  | .ok (passed, _), .ok (front, _) => .ok (front.drop passed.length)
  | .error cut, _ => .error (.broken true cs cut)
  | _, .error cut => .error (.broken false cs cut)

/-- The threshold that stands after a place that is counted in bytes; everything is carried if
there is none. -/
def thresholdAfter (place : Nat) (cs : List Char) : Except DirectiveFault (Option EventLevel) :=
  match Text.cutAt place cs with
  | .ok (_, []) => .ok (some .trace)
  | .ok (_, level) =>
    match threshold? level with
    | some t => .ok t
    | none => .error .malformed
  | .error cut => .error (.broken true cs cut)

/-- The threshold that stands after brackets which end at a place. -/
def thresholdBeyond (place : Nat) (cs : List Char) :
    List Char → Except DirectiveFault (Option EventLevel)
  | [] => .ok (some .trace)
  | '=' :: _ => thresholdAfter (place + 1) cs
  | _ => .error .malformed

/-- Reads the condition on a field in the braces that were opened at a place, and gives the
threshold after the brackets around them. -/
def parseField (place : Nat) (cs rest : List Char) :
    Except DirectiveFault (FieldCondition × Option EventLevel) := do
  let inner := rest.takeWhile (· ≠ '\x7d')
  let stop := place + Text.byteSize inner
  match rest.drop inner.length with
  | _ :: rest =>
    match FieldCondition.parse? (← between place stop cs), rest with
    | some field, ']' :: rest => pure (field, ← thresholdBeyond (stop + 2) cs rest)
    | _, _ => throw .malformed
  | [] => throw .malformed

/-- Reads what stands in the brackets that were opened at a place, and after them. -/
def parseBrackets (target : Option String) (place : Nat) (cs rest : List Char) :
    Except DirectiveFault Directive := do
  let inner := rest.takeWhile fun c => c ≠ ']' && c ≠ '\x7b'
  let stop := place + Text.byteSize inner
  match rest.drop inner.length with
  | ']' :: rest =>
    let span ← between place stop cs
    pure ⟨target, some (String.ofList span), none, ← thresholdBeyond (stop + 1) cs rest⟩
  | _ :: rest =>
    let span ← between place stop cs
    let (field, least) ← parseField (stop + 1) cs rest
    pure ⟨target, if span.isEmpty then none else some (String.ofList span), some field, least⟩
  | [] => throw .malformed

/-- Reads a directive. Places are counted without the leading blanks, and the words are cut with
them. -/
def parse (s : String) : Except DirectiveFault Directive :=
  let cs := s.toList
  let seen := Text.trim cs
  let head := seen.takeWhile fun c => c ≠ '=' && c ≠ '['
  if !(head.head?.any mayStart || seen.head? = some '[') then .error .malformed
  else
    let place := Text.byteSize head
    match seen.drop head.length with
    | [] =>
      match threshold? cs with
      | some t => .ok ⟨none, none, none, t⟩
      | none => .ok ⟨some s, none, none, some .trace⟩
    | '=' :: _ => do
      let target ← between 0 place cs
      pure ⟨some (String.ofList target), none, none, ← thresholdAfter (place + 1) cs⟩
    | _ :: rest => do
      let target ← between 0 place cs
      let target := if head.isEmpty then none else some (String.ofList target)
      parseBrackets target (place + 1) cs rest

/-- The pieces of a text between commas, without the empty ones: `piece` is the one that is being
read, in reverse. -/
def pieces (piece : List Char) : List Char → List (List Char)
  | [] => if piece.isEmpty then [] else [piece.reverse]
  | c :: cs =>
    if c = ',' then
      if piece.isEmpty then pieces [] cs else piece.reverse :: pieces [] cs
    else pieces (c :: piece) cs

/-- Reads a list of directives. -/
def list (s : String) : Except DirectiveFault (List Directive) :=
  (pieces [] s.toList).mapM fun p => parse (String.ofList p)

/-- Whether a directive is about an event. -/
def concerns (d : Directive) (e : Event) : Bool :=
  d.span.isNone &&
    (d.target.all fun t => t.toList.isPrefixOf e.target.toList) &&
    d.field.all fun f => !f.hasValue && e.fields.any fun g => g.1 = f.name

/-- Whether a directive is at least as narrow as another about the same event. Of two fields, the
one with the greater name is taken for the narrower. -/
def isWithin (d b : Directive) : Bool :=
  let size (d : Directive) : Nat := (d.target.map fun t => t.length + 1).getD 0
  if size d = size b then
    match b.field, d.field with
    | none, _ => true
    | some _, none => false
    | some g, some f => g.name ≤ f.name
  else size b < size d

/-- The directive that decides about an event: the last of the narrowest. -/
def deciding? (ds : List Directive) (e : Event) : Option Directive :=
  ds.foldl (fun best d =>
    if d.concerns e && best.all d.isWithin then some d else best) none

/-- Whether an event is carried. -/
def carries (ds : List Directive) (e : Event) : Bool :=
  match deciding? ds e with
  | some d =>
    match d.least with
    | some l => e.level.rank ≤ l.rank
    | none => false
  | none => false

end Directive

end Logbook
