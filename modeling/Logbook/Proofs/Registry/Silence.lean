/-
# What a silent threshold lets pass

The lowest threshold is meant to keep no informational record. A threshold keeps what does not exceed it,
so the lowest one keeps the records at the bottom of the scale itself, and statements at the bottom are
enabled. Everything above is silenced, with it all the kinds of informational statements there are: none
of them stands at the bottom.

Key theorems: `Registry.verbosityFor_eq_silent`, `Registry.silence_spares_the_bottom`,
`Registry.silence_keeps_a_silent_record`.
-/
import Logbook.Proofs.Registry.History

namespace Logbook

/-- No kind of statement stands at the bottom of the scale. -/
theorem Statement.verbosity_ne_silent (k : Statement) : k.verbosity ≠ .silent := by
  cases k <;> decide

namespace Registry

open Scenario (RegistryAction)

/-- A category is silenced by a threshold that is set for it, or else by the level. -/
theorem verbosityFor_eq_silent {r : Registry} (hflag : r.overridden = !r.overrides.isEmpty)
    (category : Option String) :
    r.verbosityFor category = .silent ↔
      r.override? category = some .silent ∨ r.override? category = none ∧ r.level = .off := by
  rw [verbosityFor_eq hflag]
  cases r.override? category with
  | none => simpa [verbosity] using Level.verbosity_eq_silent
  | some v => simp

theorem override?_of_nil {r : Registry} (h : r.overrides = []) (category : Option String) :
    r.override? category = none := by
  cases category with
  | none => rfl
  | some name =>
    rw [override?, h]
    split
    · rfl
    · exact List.findSome?_eq_none_iff.mpr fun _ _ => rfl

/-- Where the level is the lowest, only fatal records pass among those that go by it. -/
theorem admits_iff_of_off {r : Registry} (hr : r.level = .off) {x : Record} (hx : x.severity ≠ .info) :
    r.admits x ↔ x.severity = .fatal := by
  have hlow : ∀ s : Severity, ¬ s.minimumLevel ≤ Level.off := by
    intro s
    cases s <;> decide
  rw [admits_iff_of_not_info hx, hr]
  exact or_iff_left (hlow x.severity)

/-- **A silent threshold silences everything above the bottom of the scale.** Let a registry have come
about by any history. The threshold for a category is the silent one exactly if that is set for it, or if
nothing is set for it and the level is the lowest. Then, of whatever verbosity they are, informational
records of the category are admitted, and informational statements with it enabled, exactly if they stand
at the bottom of the scale; none of the kinds of statements does. At the lowest level, without any
threshold set, what is admitted are the fatal records and the informational ones at the bottom. -/
theorem silence_spares_the_bottom (l : Level) (history : List RegistryAction) :
    (∀ category, (after l history).verbosityFor category = .silent ↔
        (after l history).override? category = some .silent ∨
          (after l history).override? category = none ∧ (after l history).level = .off) ∧
      (∀ category, (after l history).verbosityFor category = .silent →
        (∀ v, (after l history).enabled .info category v ↔ v = .silent) ∧
          (∀ x : Record, x.severity = .info → category = some x.category →
            ((after l history).admits x ↔ x.verbosity = .silent)) ∧
          ∀ k : Statement, k.severity = .info →
            ¬ (after l history).enabled k.severity category k.verbosity) ∧
      ((after l history).level = .off → (after l history).overrides = [] → ∀ x : Record,
        (after l history).admits x ↔
          x.severity = .fatal ∨ x.severity = .info ∧ x.verbosity = .silent) := by
  have hflag := (follows_after l history).flag
  generalize after l history = r at hflag ⊢
  have henabled {category : Option String} (h : r.verbosityFor category = .silent) (v : Verbosity) :
      r.enabled .info category v ↔ v = .silent := by
    rw [enabled_iff, h, Verbosity.le_silent]
    simp
  have hadmits {x : Record} (hx : x.severity = .info)
      (h : r.verbosityFor (some x.category) = .silent) : r.admits x ↔ x.verbosity = .silent := by
    rw [admits_iff_of_info hx, h, Verbosity.le_silent]
  refine ⟨verbosityFor_eq_silent hflag, fun category h => ⟨henabled h, ?_, fun k hk => ?_⟩,
    fun hoff hnil x => ?_⟩
  · rintro x hx rfl
    exact hadmits hx h
  · rw [hk, henabled h]
    exact k.verbosity_ne_silent
  · by_cases hx : x.severity = .info
    · have hsilent : r.verbosityFor (some x.category) = .silent :=
        (verbosityFor_eq_silent hflag _).mpr (.inr ⟨override?_of_nil hnil _, hoff⟩)
      rw [hadmits hx hsilent]
      simp [hx]
    · rw [admits_iff_of_off hoff hx]
      simp [hx]

/-- A child of a silenced category in a registry that is talkative otherwise, and a registry that lets
nothing pass but fatal records and the bottom of the scale. -/
theorem silence_spares_the_bottom_below_a_parent :
    let r : Registry := after .traceAll [.setCategoryLevel "top" .off]
    let q : Registry := after .warning [.setCategoryLevel "top" .trace, .clearCategories, .setLevel .off]
    let x : Record := ⟨.info, "top.cpu", "m", ⟨1⟩, ⟨"model", 1⟩⟩
    r.verbosityFor (some "top.cpu") = .silent ∧ ¬ r.admits x ∧
      r.admits { x with verbosity := .silent } ∧ ¬ r.enabled .info (some "top.cpu") ⟨4294967295⟩ ∧
      (q.level = .off ∧ q.overrides = []) ∧ ¬ q.admits x ∧ q.admits { x with severity := .fatal } := by
  intro r q x
  obtain ⟨-, hcategory, -⟩ := silence_spares_the_bottom .traceAll [.setCategoryLevel "top" .off]
  obtain ⟨-, -, hall⟩ := silence_spares_the_bottom .warning
    [.setCategoryLevel "top" .trace, .clearCategories, .setLevel .off]
  have hsilent : r.verbosityFor (some "top.cpu") = .silent := by decide
  obtain ⟨henabled, hadmits, -⟩ := hcategory _ hsilent
  exact ⟨hsilent, fun h => absurd ((hadmits x rfl rfl).mp h) (by decide),
    (hadmits { x with verbosity := .silent } rfl rfl).mpr rfl,
    fun h => absurd ((henabled _).mp h) (by decide), ⟨by decide, by decide⟩,
    fun h => absurd ((hall (by decide) (by decide) x).mp h) (by decide),
    (hall (by decide) (by decide) { x with severity := .fatal }).mpr (.inl rfl)⟩

/-- At the lowest level, with no threshold set, an informational record at the bottom of the scale is
admitted and a statement at the bottom is enabled. -/
theorem silence_keeps_a_silent_record :
    let r : Registry := after .warning [.setLevel .off]
    let x : Record := ⟨.info, "top", "m", .silent, ⟨"model", 1⟩⟩
    r.verbosityFor (some "top") = .silent ∧ r.admits x = true ∧
      r.enabled .info (some "top") .silent = true ∧ x.severity ≠ .fatal := by
  decide

end Registry

end Logbook
