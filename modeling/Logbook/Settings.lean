/-
# Settings

What a facility is set up with, once. The values that nobody has chosen are those of
`Settings.standard`; the setters change one value each, and an empty log file or category filter
given to a setter means none.

Key definitions: `Settings`, `Settings.standard`, `Settings.basic`.
-/
import Logbook.Level

namespace Logbook

/-- What a facility is set up with. -/
structure Settings where
  /-- The global level. -/
  level : Level
  /-- The width of the category column; none is shown at width zero. -/
  categoryWidth : UInt64
  /-- Whether lines start with the time of day. -/
  wallTime : Bool
  /-- Whether lines show the simulated time. -/
  simTime : Bool
  /-- Whether the simulated time is followed by the number of delta cycles. -/
  deltas : Bool
  /-- Whether lines show the level. -/
  severity : Bool
  /-- Whether the console shows colours. -/
  colored : Bool
  /-- The file that lines are written to as well. -/
  logFile : Option String
  /-- The pattern that a category has to match. -/
  categoryFilter : Option String
  /-- Whether the log file is written in the background. -/
  background : Bool
  /-- A wish of simulation frontends that is noted and has no effect. -/
  noBroker : Bool
  deriving DecidableEq

namespace Settings

/-- The width of the category column that nobody has chosen. -/
def standardWidth : UInt64 := 24

/-- The settings that nobody has chosen. -/
def standard : Settings where
  level := .warning
  categoryWidth := standardWidth
  wallTime := false
  simTime := true
  deltas := false
  severity := true
  colored := true
  logFile := none
  categoryFilter := none
  background := true
  noBroker := false

instance : Inhabited Settings := ⟨standard⟩

/-- A text that may be absent; an empty one is. -/
def presence (s : String) : Option String := if s.isEmpty then none else some s

/-- Chooses the global level. -/
def withLevel (l : Level) (x : Settings) : Settings := { x with level := l }

/-- Chooses the width of the category column. -/
def withCategoryWidth (w : UInt64) (x : Settings) : Settings := { x with categoryWidth := w }

/-- Chooses whether lines start with the time of day. -/
def withWallTime (b : Bool) (x : Settings) : Settings := { x with wallTime := b }

/-- Chooses whether lines show the simulated time. -/
def withSimTime (b : Bool) (x : Settings) : Settings := { x with simTime := b }

/-- Chooses whether the simulated time is followed by the number of delta cycles. -/
def withDeltas (b : Bool) (x : Settings) : Settings := { x with deltas := b }

/-- Chooses whether lines show the level. -/
def withSeverity (b : Bool) (x : Settings) : Settings := { x with severity := b }

/-- Chooses whether the console shows colours. -/
def withColored (b : Bool) (x : Settings) : Settings := { x with colored := b }

/-- Chooses the log file. -/
def withLogFile (path : String) (x : Settings) : Settings := { x with logFile := presence path }

/-- Chooses the pattern for categories. -/
def withCategoryFilter (pattern : String) (x : Settings) : Settings :=
  { x with categoryFilter := presence pattern }

/-- Chooses whether the log file is written in the background. -/
def withBackground (b : Bool) (x : Settings) : Settings := { x with background := b }

/-- Notes the wish for no broker. -/
def withNoBroker (b : Bool) (x : Settings) : Settings := { x with noBroker := b }

/-- The settings with three values chosen. -/
def basic (l : Level) (width : UInt64) (wallTime : Bool) : Settings :=
  ((standard.withLevel l).withCategoryWidth width).withWallTime wallTime

end Settings

end Logbook
