/-
# Lines

A record becomes a line: the time of day, the simulated time, the level and the category in a
column of fixed width, each of them optional, and then what the record says. The category stands
on the left of its column and is shown in full when it is wider. A column can be at most 65535
characters wide; a line with a wider one cannot be made.

Everything a line depends on besides the record is given: the layout says which parts are shown,
the moment says what time it is.

Key definitions: `Layout`, `Moment`, `Layout.line`, `Layout.render`, `Style.set`, `Style.reset`.
-/
import Logbook.Record
import Logbook.Settings
import Logbook.Stamp
import Logbook.Text.Braced

namespace Logbook

namespace Style

/-- The sequence that turns the style of a level on. -/
def set : Level → String
  | .off => ""
  | .fatal => "\x1b[1m\x1b[31m"
  | .error => "\x1b[31m"
  | .warning => "\x1b[33m"
  | .info => "\x1b[32m"
  | .debug => "\x1b[36m"
  | .trace | .traceAll => "\x1b[2m"

/-- The sequence that turns the style of a level off. -/
def reset : Level → String
  | .off => ""
  | _ => "\x1b[0m"

end Style

/-- What a clock shows: nanoseconds since the start and delta cycles since time last moved. -/
structure Reading where
  now : Nat
  deltas : UInt64
  deriving DecidableEq

/-- The time at which a line is made. -/
structure Moment where
  /-- The time of day. -/
  wall : String
  /-- The reading of the clock, if there is one. -/
  reading : Option Reading
  /-- How simulated time is shown. -/
  display : TimeDisplay
  deriving DecidableEq

/-- Which parts a line has. -/
structure Layout where
  /-- The width of the category column; none is shown at width zero. -/
  categoryWidth : UInt64
  wallTime : Bool
  simTime : Bool
  deltas : Bool
  severity : Bool
  /-- Whether lines show colours where the reader can see them. -/
  colored : Bool
  deriving DecidableEq

namespace Layout

/-- The layout that settings ask for. -/
def ofSettings (x : Settings) : Layout :=
  ⟨x.categoryWidth, x.wallTime, x.simTime, x.deltas, x.severity, x.colored⟩

/-- The layout that nobody has chosen. -/
def standard : Layout := ofSettings .standard

/-- A layout without times and colours. -/
def plain : Layout := ofSettings ((Settings.standard.withSimTime false).withColored false)

/-- The time of day. -/
def wallPart (x : Layout) (m : Moment) : String :=
  if x.wallTime then "[" ++ m.wall ++ "] " else ""

/-- The simulated time. -/
def timePart (x : Layout) (m : Moment) : String :=
  match m.reading with
  | some t =>
    if x.simTime then
      let stamp := (Stamp.of t.now m.display).text
      if x.deltas then "[" ++ stamp ++ " (" ++ toString t.deltas.toNat ++ ")] "
      else "[" ++ stamp ++ "] "
    else ""
  | none => ""

/-- The level. -/
def labelPart (x : Layout) (colored : Bool) (l : Level) : String :=
  if x.severity then
    if colored then Style.set l ++ l.name ++ Style.reset l ++ ": " else l.name ++ ": "
  else ""

/-- A category in a column. -/
def column (width : Nat) (category : String) : String :=
  String.ofList (Text.padEnd width ' ' category.toList) ++ ": "

/-- The category, if its column can be made. -/
def categoryPart (x : Layout) (category : String) : Except ColumnError String :=
  if x.categoryWidth = 0 then .ok ""
  else if x.categoryWidth.toNat ≤ Text.widest then .ok (column x.categoryWidth.toNat category)
  else .error .tooWide

/-- The line of a record, with or without colours. -/
def line (x : Layout) (m : Moment) (colored : Bool) (r : Record) : Except ColumnError String :=
  match x.categoryPart r.category with
  | .ok category =>
    .ok (x.wallPart m ++ x.timePart m ++ x.labelPart colored r.level ++ category ++ r.message)
  | .error e => .error e

/-- The line of a record, with the colours that the layout asks for. -/
def render (x : Layout) (m : Moment) (r : Record) : Except ColumnError String :=
  x.line m x.colored r

/-- The description of a layout, with or without a clock. -/
def describe (x : Layout) (clock : Bool) : String :=
  Text.braced "RecordFormatter"
    [("category_width", toString x.categoryWidth.toNat),
     ("print_sys_time", Text.flagText x.wallTime),
     ("print_sim_time", Text.flagText x.simTime),
     ("print_delta", Text.flagText x.deltas),
     ("print_severity", Text.flagText x.severity),
     ("colored", Text.flagText x.colored),
     ("clock", Text.flagText clock)] true

end Layout

end Logbook
