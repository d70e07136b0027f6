/-
# Verbosity registries

A registry decides how talkative a facility is: a global level, thresholds for single categories
that their descendants inherit, and the length of a clock cycle when time is shown in cycles. The
level is held as its position, and whether there are thresholds for categories at all is noted
beside them, so that the common question needs no search.

Key definitions: `Registry`, `Registry.verbosityFor`, `Registry.admits`, `Registry.enabled`.
-/
import Logbook.Category
import Logbook.Record
import Logbook.Stamp

namespace Logbook

/-- What decides how talkative a facility is. -/
structure Registry where
  /-- The position of the global level. -/
  levelCode : UInt8
  /-- Whether any category has a threshold of its own. -/
  overridden : Bool
  /-- The thresholds of single categories, the latest first. -/
  overrides : List (String × Verbosity)
  /-- The length of a clock cycle in nanoseconds. -/
  cycleBase : Option Nat
  deriving DecidableEq

namespace Registry

/-- A registry at a level, without thresholds for categories. -/
def ofLevel (l : Level) : Registry := ⟨l.code, false, [], none⟩

/-- A registry that nobody has configured. -/
def fresh : Registry := ofLevel .warning

instance : Inhabited Registry := ⟨fresh⟩

/-- The global level. No registry that comes of `fresh` or `ofLevel` by the changes below holds anything but
the position of a level, so the other case is never met. -/
def level (r : Registry) : Level := (Level.ofCode? r.levelCode).getD .warning

/-- Changes the global level. -/
def setLevel (l : Level) (r : Registry) : Registry := { r with levelCode := l.code }

/-- The threshold of the global level. -/
def verbosity (r : Registry) : Verbosity := r.level.verbosity

/-- The threshold for a category: that of the nearest name on the way up that has one, and the
global one when there is none or no category is given. -/
def verbosityFor (r : Registry) : Option String → Verbosity
  | none => r.verbosity
  | some name =>
    if name.isEmpty || !r.overridden then r.verbosity
    else ((Category.lineage name).findSome? fun n => r.overrides.lookup n).getD r.verbosity

/-- The thresholds without that of one category. -/
def without (category : String) (os : List (String × Verbosity)) : List (String × Verbosity) :=
  os.filter fun o => o.1 != category

/-- Gives a category a threshold. -/
def setCategoryVerbosity (category : String) (v : Verbosity) (r : Registry) : Registry :=
  { r with overrides := (category, v) :: without category r.overrides, overridden := true }

/-- Gives a category the threshold of a level. -/
def setCategoryLevel (category : String) (l : Level) (r : Registry) : Registry :=
  r.setCategoryVerbosity category l.verbosity

/-- Takes the threshold of a category away, and says what it was. -/
def clearCategory (category : String) (r : Registry) : Option Verbosity × Registry :=
  let rest := without category r.overrides
  (r.overrides.lookup category, { r with overrides := rest, overridden := !rest.isEmpty })

/-- Takes the thresholds of all categories away. -/
def clearCategories (r : Registry) : Registry := { r with overrides := [], overridden := false }

/-- Sets the length of a clock cycle. -/
def setCycleBase (period : Nat) (r : Registry) : Registry := { r with cycleBase := some period }

/-- Forgets the length of a clock cycle. -/
def clearCycleBase (r : Registry) : Registry := { r with cycleBase := none }

/-- How stamps show the time: in cycles when these have a length. -/
def timeDisplay (r : Registry) : TimeDisplay :=
  match r.cycleBase with
  | some period => if period = 0 then .simTime else .cycles period
  | none => .simTime

/-- Whether a sink that follows this registry keeps a record. -/
def admits (r : Registry) (x : Record) : Bool :=
  match x.severity with
  | .info => x.verbosity ≤ r.verbosityFor (some x.category)
  | .fatal => true
  | s => s.minimumLevel ≤ r.level

/-- Whether a call site makes its record at all. -/
def enabled (r : Registry) (s : Severity) (category : Option String) (v : Verbosity) : Bool :=
  !s.isFiltered || v ≤ r.verbosityFor category

end Registry

end Logbook
