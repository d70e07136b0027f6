/-
# The question before a record and the one after it

The registry is asked twice about an informational record: by the statement, before there is a
record at all, and by the sink that is handed the record. The statement asks with the category that
it was given, if any; the sink asks with the category that the record carries, which is the default
one where none was given.

With a category the two answers are the same. Without one the statement goes by the global threshold
and the sink by that of the default category, which is another one only where something was said of
this very name. `isEnabled_iff_admits_iff` says exactly when the answers are the same.

Key definitions: `Statement.record`.
Key theorems: `Statement.run_eq_of_isEnabled`, `Registry.verbosityFor_default`,
`Statement.isEnabled_iff_admits_iff`.
-/
import Logbook.Proofs.Registry.History

namespace Logbook

namespace Registry

/-- The default category has no dots, so only what was said of the name itself counts. -/
theorem verbosityFor_default (l : Level) (history : List Scenario.RegistryAction) :
    (after l history).verbosityFor (some Record.defaultCategory) =
      (lastWord history Record.defaultCategory).getD (lastLevel l history).verbosity := by
  have h := follows_after l history
  have hlineage : Category.lineage Record.defaultCategory = [Record.defaultCategory] := by decide
  rw [h.verbosityFor_eq (by decide), hlineage, h.verbosity_eq]
  cases hword : lastWord history Record.defaultCategory <;> simp [hword]

end Registry

namespace Statement

/-- The record of a statement that is enabled. -/
def record (k : Statement) (site : Site) (category : Option String) (message : String) : Record :=
  ((k.draft site category).append message).record

/-- A statement that is enabled makes its record and hands it to the sink in force; one that is not
does nothing. -/
theorem run_eq_of_isEnabled (k : Statement) (site : Site) (category : Option String)
    (message : String) (x : Facility) :
    k.run site category message x =
      if k.isEnabled category x then
        (Facility.dispatch (k.record site category message) >>= fun _ => pure true) x
      else (.done false, x) := by
  simp only [run, runWith, Act.bind_run, Act.inspect]
  split <;> rfl

section Info

variable {k : Statement} (hk : k.severity = .info) (category : Option String)
include hk

/-- The statement goes by the category that it was given. -/
theorem isEnabled_iff_of_info (x : Facility) :
    k.isEnabled category x ↔ k.verbosity ≤ x.registry.verbosityFor category := by
  rw [isEnabled, Registry.enabled_iff]
  simp [hk]

/-- The sink goes by the category that the record carries. -/
theorem admits_record_iff_of_info (site : Site) (message : String) (r : Registry) :
    r.admits (k.record site category message) ↔
      k.verbosity ≤ r.verbosityFor (some (category.getD Record.defaultCategory)) :=
  Registry.admits_iff_of_info (x := k.record site category message) hk r

end Info

/-- **The statement and the sink agree, but for a threshold of the default category.** Let the
process-wide registry have come about by any history, and let an informational statement run, with
or without a category. It makes its record and hands it on exactly if it is enabled. It is enabled
exactly if a sink that follows the same registry keeps that record, unless it was given no category
and the last word on the default category is a threshold that lies on the other side of the
statement's verbosity than the global one. -/
theorem isEnabled_iff_admits_iff (l : Level) (history : List Scenario.RegistryAction)
    (x : Facility) (hx : x.registry = Registry.after l history) (k : Statement)
    (hk : k.severity = .info) (site : Site) (category : Option String) (message : String) :
    (k.run site category message x =
      if k.isEnabled category x then
        (Facility.dispatch (k.record site category message) >>= fun _ => pure true) x
      else (.done false, x)) ∧
    ((k.isEnabled category x ↔ x.registry.admits (k.record site category message)) ↔
      (category = none → ∀ v, Registry.lastWord history "SystemC" = some v →
        (k.verbosity ≤ (Registry.lastLevel l history).verbosity ↔ k.verbosity ≤ v))) := by
  refine ⟨run_eq_of_isEnabled k site category message x, ?_⟩
  rw [isEnabled_iff_of_info hk, admits_record_iff_of_info hk, hx]
  cases category with
  | some name => simp
  | none =>
    have hglobal : (Registry.after l history).verbosityFor none =
        (Registry.lastLevel l history).verbosity := (Registry.follows_after l history).verbosity_eq
    rw [hglobal, Option.getD_none, Registry.verbosityFor_default, Record.defaultCategory]
    cases Registry.lastWord history "SystemC" <;> simp

/-- An informational statement without a category in a facility in which the default category is
more talkative than the rest, where the sink would keep a record that is never made, and the same
statement with the default category named. -/
theorem isEnabled_iff_admits_iff_under_an_override :
    let history : List Scenario.RegistryAction := [.setCategoryLevel "SystemC" .trace]
    let x : Facility := { Facility.start .recorder ⟨[]⟩ "" none with
      registry := Registry.after .warning history }
    x.registry = Registry.after .warning history ∧ Statement.trace.severity = .info ∧
      Statement.trace.run ⟨"model", 1⟩ none "m" x = (.done false, x) ∧
      ¬ (Statement.trace.isEnabled none x ↔
        x.registry.admits (Statement.trace.record ⟨"model", 1⟩ none "m")) ∧
      (Statement.trace.isEnabled (some "SystemC") x ↔
        x.registry.admits (Statement.trace.record ⟨"model", 1⟩ (some "SystemC") "m")) := by
  intro history x
  have hnone := isEnabled_iff_admits_iff .warning history x rfl .trace rfl ⟨"model", 1⟩ none "m"
  have hsome :=
    isEnabled_iff_admits_iff .warning history x rfl .trace rfl ⟨"model", 1⟩ (some "SystemC") "m"
  refine ⟨rfl, rfl, hnone.1, fun hagree => ?_, hsome.2.mpr (by simp)⟩
  have hword : Registry.lastWord history "SystemC" = some .full := by decide
  have hsides := hnone.2.mp hagree rfl .full hword
  exact absurd (hsides.mpr (by decide)) (by decide)

/-- A threshold of the default category decides about records without a category only where the sink
looks it up: with a higher one than the global threshold a record that the sink would keep is not
made, and with a lower one a record is made that the sink drops. -/
theorem override_of_default_category_divides :
    let raised : Facility := { Facility.start .recorder ⟨[]⟩ "" none with
      registry := Registry.after .warning [.setCategoryLevel "SystemC" .trace] }
    let lowered : Facility := { Facility.start .recorder ⟨[]⟩ "" none with
      registry := Registry.after .warning [.setLevel .info, .setCategoryLevel "SystemC" .off] }
    (Statement.trace.isEnabled none raised = false ∧
      raised.registry.admits (Statement.trace.record ⟨"model", 1⟩ none "m") = true) ∧
    (Statement.info.isEnabled none lowered = true ∧
      lowered.registry.admits (Statement.info.record ⟨"model", 1⟩ none "m") = false) := by
  decide

end Statement

end Logbook
