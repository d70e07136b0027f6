/-
# Drafts

A draft is a record that is still being written: text is appended to it and its category may change
until it is closed. It is closed exactly once, at the end of the scope that opened it, and becomes
one record then, whatever made the scope end.

Key definitions: `Draft`, `Draft.append`, `Draft.record`.
-/
import Logbook.Sink
import Logbook.Text.Quoted

namespace Logbook

/-- A record that is still being written; it goes wherever records go if no sink is given. -/
structure Draft where
  severity : Severity
  message : String
  category : Option String
  verbosity : Verbosity
  site : Site
  sink : Option (Ref Sink)
  deriving DecidableEq

namespace Draft

/-- A draft at its start. -/
def start (s : Severity) (v : Verbosity) (site : Site) (sink : Option (Ref Sink)) : Draft :=
  ⟨s, "", none, v, site, sink⟩

/-- Appends text. -/
def append (s : String) (d : Draft) : Draft := { d with message := d.message ++ s }

/-- Chooses the category; without one it is the default. -/
def setCategory (category : Option String) (d : Draft) : Draft := { d with category }

/-- The category that the record would have now. -/
def currentCategory (d : Draft) : String := d.category.getD Record.defaultCategory

/-- The record that a draft becomes. -/
def record (d : Draft) : Record :=
  ⟨d.severity, d.currentCategory, d.message, d.verbosity, d.site⟩

/-- The description of a draft. -/
def describe (d : Draft) : String :=
  Text.braced "ScopedLogger"
    [("severity", d.severity.word),
     ("category", Text.quoted d.currentCategory),
     ("message", Text.quoted d.message),
     ("verbosity", "Verbosity(" ++ d.verbosity.text ++ ")"),
     ("file", Text.quoted d.site.file),
     ("line", toString d.site.line.toNat)] true

end Draft

end Logbook
