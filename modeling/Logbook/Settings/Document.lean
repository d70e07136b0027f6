/-
# Settings as a document

Settings are written as an object with all their fields, and read back from one in which any field
may be absent and then has its standard value.

Key definitions: `Settings.document`, `Settings.ofDocument?`, `Settings.parse?`.
-/
import Logbook.Json.Fields
import Logbook.Settings

namespace Logbook.Settings

open Json (Value Fields)

/-- A text or nothing. -/
def orNull : Option String → Value
  | some s => .text s
  | none => .null

/-- The fields of settings, in the order they are written in. -/
def fields (x : Settings) : Fields :=
  [("level", .text x.level.name),
   ("category_width", .natural x.categoryWidth.toNat),
   ("print_sys_time", .flag x.wallTime),
   ("print_sim_time", .flag x.simTime),
   ("print_delta", .flag x.deltas),
   ("print_severity", .flag x.severity),
   ("colored_output", .flag x.colored),
   ("log_file", orNull x.logFile),
   ("category_filter", orNull x.categoryFilter),
   ("log_async", .flag x.background),
   ("dont_create_broker", .flag x.noBroker)]

/-- The names of the fields. -/
def fieldNames : List String := standard.fields.map Prod.fst

/-- Settings as a document. -/
def document (x : Settings) : Value := .record x.fields

/-- The settings with the given fields, and standard values for the others. -/
def ofFields? (fs : Fields) : Option Settings := do
  let level ← fs.optional "level" Value.level? standard.level
  let categoryWidth ← fs.optional "category_width" Value.word64? standard.categoryWidth
  let wallTime ← fs.optional "print_sys_time" Value.flag? standard.wallTime
  let simTime ← fs.optional "print_sim_time" Value.flag? standard.simTime
  let deltas ← fs.optional "print_delta" Value.flag? standard.deltas
  let severity ← fs.optional "print_severity" Value.flag? standard.severity
  let colored ← fs.optional "colored_output" Value.flag? standard.colored
  let logFile ← fs.optional "log_file" Value.textOrNull? standard.logFile
  let categoryFilter ← fs.optional "category_filter" Value.textOrNull? standard.categoryFilter
  let background ← fs.optional "log_async" Value.flag? standard.background
  let noBroker ← fs.optional "dont_create_broker" Value.flag? standard.noBroker
  pure { level, categoryWidth, wallTime, simTime, deltas, severity, colored, logFile,
         categoryFilter, background, noBroker }

/-- The settings that a document gives. -/
def ofDocument? (v : Value) : Option Settings := (v.fields? fieldNames).bind ofFields?

/-- Settings as they are written. -/
def render (x : Settings) : String := x.document.render

/-- Reads settings. -/
def parse? (s : String) : Option Settings := (Value.parse? s).bind ofDocument?

end Logbook.Settings
