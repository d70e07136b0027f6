/-
# Events as records

Every event that reaches a backend is shown as a record. The fields are gathered one by one: a
field with the name and the kind of value of a part of a record gives that part, the last one of a
name counting, and every other field is kept as text. An event on the target of records has the
severity and verbosity of its fields where these make sense; an event on any other target has those
of its level and says at the end of its message what else it carried.

Key definitions: `Gathered`, `Gathered.add`, `Event.record`, `Event.line`.
-/
import Logbook.Event
import Logbook.Layout

namespace Logbook

/-- What the fields of an event say about a record. -/
structure Gathered where
  message : String
  category : Option String
  severity : Option Severity
  verbosity : Option UInt64
  file : Option String
  line : Option UInt64
  /-- The fields that are no part of a record, as text. -/
  extra : String
  deriving DecidableEq

namespace Gathered

/-- What no fields say. -/
def nothing : Gathered := ⟨"", none, none, none, none, none, ""⟩

/-- Keeps a field as text. -/
def addExtra (name : String) (v : FieldValue) (g : Gathered) : Gathered :=
  match v.text? with
  | some s => { g with extra := g.extra ++ " " ++ name ++ "=" ++ s }
  | none => g

/-- Gathers a text. -/
def addText (name s : String) (g : Gathered) : Gathered :=
  if name = "message" then { g with message := s }
  else if name = "category" then { g with category := some s }
  else if name = "severity" then { g with severity := Severity.ofLabel? s }
  else if name = "file" then { g with file := some s }
  else g.addExtra name (.text s)

/-- Gathers a count. -/
def addCount (name : String) (n : UInt64) (g : Gathered) : Gathered :=
  if name = "verbosity" then { g with verbosity := some n }
  else if name = "line" then { g with line := some n }
  else g.addExtra name (.count n)

/-- Gathers any other value. -/
def addShown (name : String) (v : FieldValue) (g : Gathered) : Gathered :=
  if name = "message" then
    match v.text? with
    | some s => { g with message := s }
    | none => g
  else g.addExtra name v

/-- Gathers a field. -/
def add (g : Gathered) (f : Field) : Gathered :=
  match f.2 with
  | .text s => g.addText f.1 s
  | .count n => g.addCount f.1 n
  | v => g.addShown f.1 v

/-- What the fields say. -/
def ofFields (fs : List Field) : Gathered := fs.foldl add nothing

end Gathered

/-- The severity and verbosity that a level stands for. -/
def EventLevel.standing : EventLevel → Severity × Verbosity
  | .error => (.error, .medium)
  | .warn => (.warning, .medium)
  | .info => (.info, .medium)
  | .debug => (.info, .high)
  | .trace => (.info, .full)

/-- A count as a word of 32 bits, if it fits. -/
def narrow? (n : UInt64) : Option UInt32 := if n.toNat < UInt32.size then some n.toUInt32 else none

namespace Event

/-- Whether an event is on the target of records. -/
def isReport (e : Event) : Bool := e.target = reportTarget

/-- The record that an event is shown as. -/
def record (e : Event) : Record :=
  let g := Gathered.ofFields e.fields
  let standing := e.level.standing
  { severity := if e.isReport then g.severity.getD standing.1 else standing.1
    category := g.category.getD e.target
    message := if e.isReport then g.message else g.message ++ g.extra
    verbosity :=
      if e.isReport then ((g.verbosity.bind narrow?).map Verbosity.mk).getD standing.2
      else standing.2
    site :=
      { file := (g.file.orElse fun _ => e.file).getD ""
        line := ((g.line.bind narrow?).orElse fun _ => e.line).getD 0 } }

/-- The line of an event, with its end. Colours need a layout that asks for them and an output
that can show them. -/
def lineOf (x : Layout) (m : Moment) (ansi : Bool) (e : Event) : Except ColumnError String :=
  (x.line m (x.colored && ansi) e.record).map fun s => s ++ "\n"

end Event

end Logbook
