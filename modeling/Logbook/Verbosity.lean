/-
# The verbosity scale

Informational records carry a number on this scale, and a threshold on the same scale decides
which of them are kept. The six named values are the documented thresholds; every other number is
legal too and compares as a number.

Key definitions: `Verbosity` and its named values.
-/

namespace Logbook

/-- A number on the verbosity scale; a larger one is more talkative. -/
structure Verbosity where
  value : UInt32
  deriving DecidableEq, Inhabited

namespace Verbosity

instance : LE Verbosity := ⟨fun a b => a.value ≤ b.value⟩
instance : LT Verbosity := ⟨fun a b => a.value < b.value⟩

instance (a b : Verbosity) : Decidable (a ≤ b) := inferInstanceAs (Decidable (a.value ≤ b.value))
instance (a b : Verbosity) : Decidable (a < b) := inferInstanceAs (Decidable (a.value < b.value))

/-- The threshold meant to keep no informational record. -/
def silent : Verbosity := ⟨0⟩

/-- The threshold of the warning, error and fatal levels. -/
def low : Verbosity := ⟨100⟩

/-- The threshold of the info level. -/
def medium : Verbosity := ⟨200⟩

/-- The threshold of the debug level. -/
def high : Verbosity := ⟨300⟩

/-- The threshold of the trace level. -/
def full : Verbosity := ⟨400⟩

/-- The threshold of the finest level. -/
def debug : Verbosity := ⟨500⟩

/-- The number in decimal. -/
def text (v : Verbosity) : String := toString v.value.toNat

theorem le_iff (a b : Verbosity) : a ≤ b ↔ a.value.toNat ≤ b.value.toNat := UInt32.le_iff_toNat_le

theorem lt_iff (a b : Verbosity) : a < b ↔ a.value.toNat < b.value.toNat := UInt32.lt_iff_toNat_lt

end Verbosity

end Logbook
