/-
# Names of levels in any letter case

Who does not mind the case of ASCII letters puts them all in upper case first. Two characters become the same
in this way exactly if they are equal or are the two cases of one letter (`Text.toUpper_eq_toUpper_iff`). No
letter becomes a blank and no blank a letter, so that it makes no difference whether a text is freed of the
blanks at its ends before or afterwards. The names of levels are in upper case: a level is found exactly if
what is left of the text is its name up to letter case (`Level.parseAnyCase_eq_ok`).

Key definitions: `Text.SameLetter`, `Text.SameLetters`.
Key theorems: `Text.toUpper_eq_toUpper_iff`, `Text.trim_map`, `Level.parseAnyCase_eq_ok`.
-/
import Mathlib.Data.List.Forall2
import Logbook.Proofs.Level.Readers

namespace Logbook

namespace Text

/-! ### Letters -/

/-- A letter from A to Z, and the same letter in lower case. -/
def TwoCases (upper lower : Char) : Prop :=
  'A' ≤ upper ∧ upper ≤ 'Z' ∧ lower.toNat = upper.toNat + 32

/-- Two characters are equal up to the case of ASCII letters. -/
def SameLetter (c d : Char) : Prop := c = d ∨ TwoCases c d ∨ TwoCases d c

/-- Two texts are equal up to the case of ASCII letters. -/
def SameLetters : List Char → List Char → Prop := List.Forall₂ SameLetter

theorem toNat_toUpper (c : Char) :
    c.toUpper.toNat = if 97 ≤ c.toNat ∧ c.toNat ≤ 122 then c.toNat - 32 else c.toNat := by
  have hlower : ('a'.val ≤ c.val ∧ c.val ≤ 'z'.val) ↔ 97 ≤ c.toNat ∧ c.toNat ≤ 122 := by
    simp only [UInt32.le_iff_toNat_le]
    exact Iff.rfl
  by_cases h : 'a'.val ≤ c.val ∧ c.val ≤ 'z'.val
  · have hletter := hlower.mp h
    obtain ⟨_, hupper⟩ : ∃ hvalid, c.toUpper = ⟨c.val + ('A'.val - 'a'.val), hvalid⟩ := ⟨_, dif_pos h⟩
    have hshift : ('A'.val - 'a'.val).toNat = 2 ^ 32 - 32 := by decide
    have hnat : c.val.toNat = c.toNat := rfl
    rw [if_pos hletter, hupper, Char.toNat, UInt32.toNat_add, hshift, hnat]
    omega
  · rw [if_neg (mt hlower.mpr h)]
    exact congrArg Char.toNat (dif_neg h)

theorem twoCases_iff {c d : Char} :
    TwoCases c d ↔ 65 ≤ c.toNat ∧ c.toNat ≤ 90 ∧ d.toNat = c.toNat + 32 := by
  simp only [TwoCases, Char.le_def, UInt32.le_iff_toNat_le]
  exact Iff.rfl

/-- What upper case makes the same is equal, or the two cases of one letter. -/
theorem toUpper_eq_toUpper_iff {c d : Char} : c.toUpper = d.toUpper ↔ SameLetter c d := by
  rw [SameLetter, twoCases_iff, twoCases_iff, ← Char.toNat_inj, ← Char.toNat_inj, toNat_toUpper, toNat_toUpper]
  split <;> split <;> omega

theorem map_toUpper_eq_iff {cs ds : List Char} :
    cs.map Char.toUpper = ds.map Char.toUpper ↔ SameLetters cs ds := by
  rw [← List.forall₂_eq_eq_eq, List.forall₂_map_left_iff, List.forall₂_map_right_iff, SameLetters]
  simp only [toUpper_eq_toUpper_iff]

/-! ### Ends -/

/-- There are no blanks among the letters and between their two cases. -/
theorem holds_blankRanges_of_letter {n : Nat} (hfirst : 65 ≤ n) (hlast : n ≤ 122) :
    blankRanges.holds n = false := by
  have hends : ∀ r ∈ blankRanges, r.2 < 65 ∨ 122 < r.1 := by decide
  refine List.any_eq_false.mpr fun r hr => ?_
  rw [Bool.and_eq_true, decide_eq_true_eq, decide_eq_true_eq]
  have hapart := hends r hr
  omega

theorem isBlank_toUpper (c : Char) : isBlank c.toUpper = isBlank c := by
  rw [isBlank, isBlank, toNat_toUpper]
  split
  · next h =>
    rw [holds_blankRanges_of_letter (by omega) (by omega), holds_blankRanges_of_letter (by omega) (by omega)]
  · rfl

section Kept

variable {f : Char → Char} (hf : ∀ c, isBlank (f c) = isBlank c)
include hf

theorem trimStart_map (cs : List Char) : trimStart (cs.map f) = (trimStart cs).map f := by
  induction cs with
  | nil => rfl
  | cons c cs ih =>
    rw [List.map_cons, trimStart, trimStart, hf, ih]
    split <;> rfl

theorem trimEnd_map (cs : List Char) : trimEnd (cs.map f) = (trimEnd cs).map f := by
  induction cs with
  | nil => rfl
  | cons c cs ih =>
    rw [List.map_cons, trimEnd, trimEnd, hf, ih]
    cases trimEnd cs with
    | nil => cases isBlank c <;> rfl
    | cons d t => rfl

/-- A change that keeps the blanks keeps what stands between the gaps at the ends. -/
theorem trim_map (cs : List Char) : trim (cs.map f) = (trim cs).map f := by
  rw [trim, trim, trimStart_map hf, trimEnd_map hf]

end Kept

end Text

namespace Level

open Text (Trims SameLetters)

theorem map_toUpper_name (l : Level) : l.name.toList.map Char.toUpper = l.name.toList := by
  cases l <;> decide

/-- The reader that does not mind letter case finds the level whose name, up to letter case, is what is left
of the text without the blanks at its ends. -/
theorem parseAnyCase_eq_ok {s : String} {l : Level} :
    parseAnyCase s = .ok l ↔ ∃ t, Trims s.toList t ∧ SameLetters t l.name.toList := by
  have hsame : parseAnyCase s = .ok l ↔ SameLetters (Text.trim s.toList) l.name.toList := by
    rw [parseAnyCase, parse_eq_ok, ← Text.trims_word_iff (isWord_name l), ← Text.trim_eq_iff, upperAscii,
      String.toList_ofList, Text.trim_map Text.isBlank_toUpper, ← Text.map_toUpper_eq_iff, map_toUpper_name]
  rw [hsame]
  constructor
  · intro h
    exact ⟨_, Text.trim_eq_iff.mp rfl, h⟩
  · rintro ⟨t, htrims, h⟩
    rwa [Text.trim_eq_iff.mpr htrims]

end Level

end Logbook
