/-
# The ways in which settings are given

Settings are built with setters, read from a document, or put together from the arguments of the demo. No
way looks at the width that it is given for the category column: a number in decimal is read as the word
that it stands for, and every word is the width of settings that are given in each of the ways
(`exists_givenBy`).

Key definitions: `Settings.Way`, `Settings.GivenBy`.
Key theorems: `Demo.word64?_decimal`, `Demo.read_categoryWidth`, `Settings.exists_givenBy`.
-/
import Logbook.Demo.Options
import Logbook.Proofs.Json.Documents

namespace Logbook

namespace Demo

/-! ### A width among the arguments -/

theorem digits?_toDigits (n : Nat) : digits? (Nat.toDigits 10 n) = some n := by
  have hdigits : ∀ c ∈ Nat.toDigits 10 n, c.isDigit = true := fun c hc =>
    Nat.isDigit_of_mem_toDigits (by decide) (by decide) hc
  have hread : (Nat.toDigits 10 n).foldl (fun m c => m * 10 + (c.toNat - 48)) 0 = n := by
    calc (Nat.toDigits 10 n).foldl (fun m c => m * 10 + (c.toNat - 48)) 0
        = Nat.ofDigitChars 10 (Nat.toDigits 10 n) 0 := by
          simp only [Nat.ofDigitChars_eq_foldl, Nat.mul_comm]
          rfl
      _ = n := Nat.ofDigitChars_ten_toDigits
  have hplain : ((Nat.toDigits 10 n).isEmpty || (Nat.toDigits 10 n).any fun c => !c.isDigit) = false := by
    simpa using hdigits
  rw [digits?, hplain, if_neg Bool.false_ne_true, hread]

/-- What is in decimal starts with a digit, and so with neither sign. -/
theorem exists_toDigits (n : Nat) : ∃ c cs, Nat.toDigits 10 n = c :: cs ∧ c ≠ '+' ∧ c ≠ '-' := by
  cases hdigits : Nat.toDigits 10 n with
  | nil => exact absurd hdigits Nat.toDigits_ne_nil
  | cons c cs =>
    have hc : c.isDigit = true :=
      Nat.isDigit_of_mem_toDigits (by decide) (by decide) (hdigits ▸ List.mem_cons_self)
    refine ⟨c, cs, rfl, ?_, ?_⟩
    · rintro rfl
      exact absurd hc (by decide)
    · rintro rfl
      exact absurd hc (by decide)

/-- A word in decimal is read back. -/
theorem word64?_decimal (w : UInt64) : word64? (toString w.toNat) = some w := by
  have htext : (toString w.toNat).toList = Nat.toDigits 10 w.toNat := Nat.toList_repr
  have hread : unsigned? (toString w.toNat) = some w.toNat := by
    obtain ⟨c, cs, hcs, hplus, -⟩ := exists_toDigits w.toNat
    rw [unsigned?, htext, hcs]
    split
    · next heq => exact absurd (List.cons.inj heq).1 hplus
    · rw [← hcs]
      exact digits?_toDigits w.toNat
  rw [word64?, hread]
  exact (if_pos w.toNat_lt_size).trans (congrArg some UInt64.ofNat_toNat)

/-- A number in decimal does not look like an option. -/
theorem looks_decimal (n : Nat) : Looks.of (toString n) = .plain := by
  have htext : (toString n).toList = Nat.toDigits 10 n := Nat.toList_repr
  obtain ⟨c, cs, hcs, -, hminus⟩ := exists_toDigits n
  rw [Looks.of, htext, hcs]
  split
  · next heq => exact absurd (List.cons.inj heq).1 hminus
  · next heq => exact absurd (List.cons.inj heq).1 hminus
  · next heq => exact absurd (List.cons.inj heq).1 hminus
  · rfl

/-- Wherever a width is expected, each one is taken as it is. -/
theorem read_categoryWidth {r : Progress} (hr : Valued.categoryWidth ∉ r.valued) (w : UInt64)
    (args : List String) :
    Request.read r none ("--category-width" :: toString w.toNat :: args) =
      Request.read { r with
        options := { r.options with categoryWidth := w }
        valued := .categoryWidth :: r.valued } none args := by
  have hoption : Request.read r none ("--category-width" :: toString w.toNat :: args) =
      Request.read r (some .categoryWidth) (toString w.toNat :: args) := rfl
  have hgive : r.give? .categoryWidth (toString w.toNat) = some { r with
      options := { r.options with categoryWidth := w }
      valued := .categoryWidth :: r.valued } := by
    have hnew : r.valued.contains .categoryWidth = false := by simpa using hr
    rw [Progress.give?, hnew, Options.assign?, word64?_decimal]
    rfl
  rw [hoption, Request.read.eq_def]
  simp only [looks_decimal, hgive]

end Demo

namespace Settings

/-- The ways in which settings are given. -/
inductive Way where
  | setters
  | document
  | arguments
  deriving DecidableEq

/-- Settings are given in a way. -/
inductive GivenBy : Way → Settings → Prop where
  | standard : GivenBy .setters standard
  | basic (l : Level) (width : UInt64) (wallTime : Bool) : GivenBy .setters (basic l width wallTime)
  | level {x : Settings} (l : Level) : GivenBy .setters x → GivenBy .setters (x.withLevel l)
  | categoryWidth {x : Settings} (w : UInt64) : GivenBy .setters x → GivenBy .setters (x.withCategoryWidth w)
  | wallTime {x : Settings} (b : Bool) : GivenBy .setters x → GivenBy .setters (x.withWallTime b)
  | simTime {x : Settings} (b : Bool) : GivenBy .setters x → GivenBy .setters (x.withSimTime b)
  | deltas {x : Settings} (b : Bool) : GivenBy .setters x → GivenBy .setters (x.withDeltas b)
  | severity {x : Settings} (b : Bool) : GivenBy .setters x → GivenBy .setters (x.withSeverity b)
  | colored {x : Settings} (b : Bool) : GivenBy .setters x → GivenBy .setters (x.withColored b)
  | logFile {x : Settings} (path : String) : GivenBy .setters x → GivenBy .setters (x.withLogFile path)
  | categoryFilter {x : Settings} (pattern : String) :
    GivenBy .setters x → GivenBy .setters (x.withCategoryFilter pattern)
  | background {x : Settings} (b : Bool) : GivenBy .setters x → GivenBy .setters (x.withBackground b)
  | noBroker {x : Settings} (b : Bool) : GivenBy .setters x → GivenBy .setters (x.withNoBroker b)
  | document {text : String} {x : Settings} : parse? text = some x → GivenBy .document x
  | arguments {args : List String} {o : Demo.Options} :
    Demo.Request.ofArguments args = .run o → GivenBy .arguments o.settings

/-- Every settings can be given in a document. -/
theorem givenBy_document (x : Settings) : GivenBy .document x := .document (parse?_render x)

/-- **No way looks at the width.** Every word is the width of the category column in settings that are given
in each of the ways. -/
theorem exists_givenBy (way : Way) (w : UInt64) : ∃ x : Settings, GivenBy way x ∧ x.categoryWidth = w := by
  cases way with
  | setters => exact ⟨_, .categoryWidth w .standard, rfl⟩
  | document => exact ⟨_, givenBy_document (standard.withCategoryWidth w), rfl⟩
  | arguments =>
    have hread : Demo.Request.ofArguments ["--category-width", toString w.toNat] =
        .run { Demo.Options.standard with categoryWidth := w } := by
      rw [Demo.Request.ofArguments, Demo.read_categoryWidth List.not_mem_nil]
      rfl
    exact ⟨_, .arguments hread, rfl⟩

end Settings

end Logbook
