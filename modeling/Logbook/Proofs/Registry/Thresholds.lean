/-
# What decides about a record

A registry holds a level and thresholds of categories, and an answer of it comes from one of the two.
The threshold for a category is the one that is set for it, at the category itself or at the nearest name
above it, and the one of the level where none is set; informational records and the statements that make
them go by it. Warnings and errors go by the level alone, and a fatal record by nothing.

Key definitions: `Registry.override?`.
Key theorems: `Registry.verbosityFor_eq`, `Registry.admits_iff_of_info`, `Level.verbosity_le_verbosity`.
-/
import Logbook.Registry

namespace Logbook

/-! ### Levels and thresholds -/

theorem Verbosity.le_refl (v : Verbosity) : v ≤ v := UInt32.le_refl v.value

theorem Verbosity.le_trans {u v w : Verbosity} (huv : u ≤ v) (hvw : v ≤ w) : u ≤ w :=
  UInt32.le_trans huv hvw

theorem Verbosity.le_silent {v : Verbosity} : v ≤ .silent ↔ v = .silent := by
  obtain ⟨n⟩ := v
  rw [Verbosity.le_iff, Verbosity.mk.injEq, ← UInt32.toNat_inj]
  exact Nat.le_zero

theorem Level.le_refl (l : Level) : l ≤ l := UInt8.le_refl l.code

theorem Level.le_trans {k l m : Level} (hkl : k ≤ l) (hlm : l ≤ m) : k ≤ m := UInt8.le_trans hkl hlm

/-- The threshold does not fall when the level rises, though it stays the same below info. -/
theorem Level.verbosity_le_verbosity {a b : Level} (h : a ≤ b) : a.verbosity ≤ b.verbosity := by
  revert h
  cases a <;> cases b <;> decide

theorem Level.verbosity_eq_silent {l : Level} : l.verbosity = .silent ↔ l = .off := by
  cases l <;> decide

namespace Registry

/-! ### Where a threshold comes from -/

/-- The threshold that is set for a category: that of the nearest name on the way up that has one.
There is none for the empty category, and none without a category. -/
def override? (r : Registry) : Option String → Option Verbosity
  | none => none
  | some name =>
    if name = "" then none else (Category.lineage name).findSome? fun n => r.overrides.lookup n

/-- The note that there are thresholds at all saves a search and changes no answer. -/
theorem verbosityFor_eq {r : Registry} (hflag : r.overridden = !r.overrides.isEmpty) :
    ∀ category, r.verbosityFor category = (r.override? category).getD r.verbosity
  | none => rfl
  | some name => by
    rw [verbosityFor, override?]
    by_cases hname : name = ""
    · subst hname
      rfl
    · have hempty : name.isEmpty = false := by simpa using hname
      rw [if_neg hname, hempty]
      cases hover : r.overridden with
      | true => rfl
      | false =>
        have hnil : r.overrides = [] := by simpa [hflag] using hover
        have hnone : (Category.lineage name).findSome? (fun n => r.overrides.lookup n) = none :=
          List.findSome?_eq_none_iff.mpr fun n _ => by rw [hnil]; rfl
        rw [hnone]
        rfl

@[simp] theorem level_setLevel (l : Level) (r : Registry) : (r.setLevel l).level = l := by
  simp [level, setLevel]

/-! ### Who goes by what -/

theorem admits_iff_of_info {x : Record} (hx : x.severity = .info) (r : Registry) :
    r.admits x ↔ x.verbosity ≤ r.verbosityFor (some x.category) := by
  simp [admits, hx]

theorem admits_iff_of_not_info {x : Record} (hx : x.severity ≠ .info) (r : Registry) :
    r.admits x ↔ x.severity = .fatal ∨ x.severity.minimumLevel ≤ r.level := by
  rw [admits]
  cases hs : x.severity with
  | info => exact absurd hs hx
  | warning => simp
  | error => simp
  | fatal => simp

theorem enabled_iff (r : Registry) (s : Severity) (category : Option String) (v : Verbosity) :
    r.enabled s category v ↔ s ≠ .info ∨ v ≤ r.verbosityFor category := by
  cases s <;> simp [enabled, Severity.isFiltered]

end Registry

end Logbook
