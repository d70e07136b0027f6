/-
# Records as documents

A stored record is an object with all six parts of the record; none may be absent when it is read
back.

Key definitions: `Record.document`, `Record.ofDocument?`, `Record.parse?`.
-/
import Logbook.Json.Fields
import Logbook.Record

namespace Logbook.Record

open Json (Value Fields)

/-- The fields of a record, in the order they are written in. -/
def fields (r : Record) : Fields :=
  [("severity", .text r.severity.word),
   ("category", .text r.category),
   ("message", .text r.message),
   ("verbosity", .natural r.verbosity.value.toNat),
   ("file", .text r.site.file),
   ("line", .natural r.site.line.toNat)]

/-- The names of the fields. -/
def fieldNames : List String := ["severity", "category", "message", "verbosity", "file", "line"]

/-- A record as a document. -/
def document (r : Record) : Value := .record r.fields

/-- A severity by its word. -/
def severity? (v : Value) : Option Severity := v.choice?.bind Severity.ofWord?

/-- The record with the given fields. -/
def ofFields? (fs : Fields) : Option Record := do
  let severity ← fs.required "severity" severity?
  let category ← fs.required "category" Value.text?
  let message ← fs.required "message" Value.text?
  let verbosity ← fs.required "verbosity" Value.word32?
  let file ← fs.required "file" Value.text?
  let line ← fs.required "line" Value.word32?
  pure ⟨severity, category, message, ⟨verbosity⟩, ⟨file, line⟩⟩

/-- The record that a document gives. -/
def ofDocument? (v : Value) : Option Record := (v.fields? fieldNames).bind ofFields?

/-- A record as it is written. -/
def render (r : Record) : String := r.document.render

/-- Reads a record. -/
def parse? (s : String) : Option Record := (Value.parse? s).bind ofDocument?

end Logbook.Record
