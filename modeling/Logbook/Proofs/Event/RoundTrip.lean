/-
# Records survive the way through the backend

A record travels as an event with one field for each of its parts, and the backend shows an event as
the record that its fields spell. Reading the fields of a record's event gives all six parts back:
the label names the severity again, and the numbers were widened on the way and fit when they are
narrowed. Nothing falls back to what the level of the event stands for.

Key theorems: `Severity.ofLabel?_label`, `Event.record_ofRecord`.
-/
import Logbook.Event.Report

namespace Logbook

@[simp] theorem Severity.ofLabel?_label (s : Severity) : ofLabel? s.label = some s := by
  cases s <;> decide

@[simp] theorem narrow?_toUInt64 (n : UInt32) : narrow? n.toUInt64 = some n := by
  have hfits : n.toUInt64.toNat < UInt32.size := by
    rw [UInt32.toNat_toUInt64]
    exact n.toNat_lt
  rw [narrow?, if_pos hfits, UInt32.toUInt32_toUInt64]

namespace Event

/-- What the fields of a record's event say. -/
theorem gathered_ofRecord (r : Record) :
    Gathered.ofFields (ofRecord r).fields =
      { message := r.message
        category := some r.category
        severity := some r.severity
        verbosity := some r.verbosity.value.toUInt64
        file := some r.site.file
        line := some r.site.line.toUInt64
        extra := "" } := by
  simp [ofRecord, Gathered.ofFields, Gathered.add, Gathered.addShown, Gathered.addText,
    Gathered.addCount, Gathered.nothing, FieldValue.text?]

/-- An event that carries a record is shown as that record. -/
theorem record_ofRecord (r : Record) : (ofRecord r).record = r := by
  have hreport : (ofRecord r).isReport = true := by simp [isReport, ofRecord]
  simp [record, gathered_ofRecord, hreport]

end Event

end Logbook
