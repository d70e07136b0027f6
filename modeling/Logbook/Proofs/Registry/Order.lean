/-
# A more talkative registry hides nothing

Of two registries that have thresholds for the same categories, the one whose level and thresholds are at
least as high is the more talkative one. The way up from a category ends at the same name in both, so the
threshold for every category is at least as high, and with the level it decides about everything: whatever
record the one admits the other admits, and whatever statement the one enables the other enables.

Key definitions: `Registry.AtMost`, `Registry.ShownBy`, `Registry.Raises`.
Key theorems: `Registry.AtMost.verbosityFor_le`, `Registry.AtMost.shownBy`, `Registry.atMost_change`,
`Registry.shown_by_more_talkative`.
-/
import Logbook.Proofs.Registry.History

namespace Logbook.Registry

open Scenario (RegistryAction)

/-- One registry is at most as talkative as another one: they have thresholds for the same categories,
and neither the level nor a threshold is lower in the other one. -/
structure AtMost (r r' : Registry) : Prop where
  level : r.level ≤ r'.level
  names : ∀ name, r.overrides.lookup name = none ↔ r'.overrides.lookup name = none
  thresholds : ∀ name v v', r.overrides.lookup name = some v → r'.overrides.lookup name = some v' → v ≤ v'

/-- Whatever record a registry admits and whatever statement it enables, another one does too. -/
structure ShownBy (r r' : Registry) : Prop where
  admits : ∀ x, r.admits x → r'.admits x
  enabled : ∀ s category v, r.enabled s category v → r'.enabled s category v

/-! ### Thresholds -/

/-- Where two tables have thresholds for the same names, the first one on any way is in both tables that
of the same name. -/
theorem findSome?_getD_le {t t' : String → Option Verbosity} (hnames : ∀ n, t n = none ↔ t' n = none)
    (hthresholds : ∀ n v v', t n = some v → t' n = some v' → v ≤ v') {g g' : Verbosity} (hg : g ≤ g') :
    ∀ way : List String, (way.findSome? t).getD g ≤ (way.findSome? t').getD g'
  | [] => hg
  | n :: way => by
    rw [List.findSome?_cons, List.findSome?_cons]
    cases ht : t n with
    | none =>
      rw [(hnames n).mp ht]
      exact findSome?_getD_le hnames hthresholds hg way
    | some v =>
      obtain ⟨v', ht'⟩ : ∃ v', t' n = some v' := by
        refine Option.ne_none_iff_exists'.mp fun hnone => ?_
        simp [(hnames n).mpr hnone] at ht
      rw [ht']
      exact hthresholds n v v' ht ht'

theorem AtMost.verbosityFor_le {r r' : Registry} (h : r.AtMost r')
    (hflag : r.overridden = !r.overrides.isEmpty) (hflag' : r'.overridden = !r'.overrides.isEmpty)
    (category : Option String) : r.verbosityFor category ≤ r'.verbosityFor category := by
  have hglobal : r.verbosity ≤ r'.verbosity := Level.verbosity_le_verbosity h.level
  rw [verbosityFor_eq hflag, verbosityFor_eq hflag']
  cases category with
  | none => exact hglobal
  | some name =>
    rw [override?, override?]
    by_cases hname : name = ""
    · rw [if_pos hname, if_pos hname]
      exact hglobal
    · rw [if_neg hname, if_neg hname]
      exact findSome?_getD_le h.names h.thresholds hglobal _

/-- A record is admitted, and a statement is enabled, by what is at most as talkative only if it is by
the other one. -/
theorem AtMost.shownBy {r r' : Registry} (h : r.AtMost r')
    (hflag : r.overridden = !r.overrides.isEmpty) (hflag' : r'.overridden = !r'.overrides.isEmpty) :
    r.ShownBy r' := by
  have hthreshold := h.verbosityFor_le hflag hflag'
  constructor
  · intro x hx
    by_cases hinfo : x.severity = .info
    · rw [admits_iff_of_info hinfo] at hx ⊢
      exact Verbosity.le_trans hx (hthreshold _)
    · rw [admits_iff_of_not_info hinfo] at hx ⊢
      exact hx.imp_right fun hlevel => Level.le_trans hlevel h.level
  · intro s category v hs
    rw [enabled_iff] at hs ⊢
    exact hs.imp_right fun hv => Verbosity.le_trans hv (hthreshold category)

/-! ### Raising -/

/-- An action raises the level, or a threshold that is set already, or leaves it where it is. -/
def Raises (r : Registry) : RegistryAction → Prop
  | .setLevel l => r.level ≤ l
  | .setCategoryLevel category l => ∃ v, r.overrides.lookup category = some v ∧ v ≤ l.verbosity
  | .setCategoryVerbosity category w => ∃ v, r.overrides.lookup category = some v ∧ v ≤ w
  | _ => False

theorem atMost_setLevel {r : Registry} {l : Level} (h : r.level ≤ l) : r.AtMost (r.setLevel l) where
  level := by rwa [level_setLevel]
  names _ := Iff.rfl
  thresholds name v v' hv hv' := by
    have hsame : v = v' := Option.some.inj (hv.symm.trans hv')
    exact hsame ▸ Verbosity.le_refl v

theorem atMost_setCategoryVerbosity {r : Registry} {category : String} {v w : Verbosity}
    (hset : r.overrides.lookup category = some v) (h : v ≤ w) :
    r.AtMost (r.setCategoryVerbosity category w) where
  level := Level.le_refl r.level
  names name := by
    rw [lookup_setCategoryVerbosity]
    by_cases hc : category = name
    · subst hc
      simp [hset]
    · rw [if_neg hc]
  thresholds name u u' hu hu' := by
    rw [lookup_setCategoryVerbosity] at hu'
    by_cases hc : category = name
    · subst hc
      rw [if_pos rfl] at hu'
      rwa [← Option.some.inj (hset.symm.trans hu), ← Option.some.inj hu']
    · rw [if_neg hc] at hu'
      rw [Option.some.inj (hu.symm.trans hu')]
      exact Verbosity.le_refl u'

/-- After an action that raises something a registry is at least as talkative as before. -/
theorem atMost_change {r : Registry} {a : RegistryAction} (h : r.Raises a) : r.AtMost (a.change r) := by
  cases a with
  | setLevel l => exact atMost_setLevel h
  | setCategoryLevel category l =>
    obtain ⟨v, hset, hv⟩ := h
    exact atMost_setCategoryVerbosity hset hv
  | setCategoryVerbosity category w =>
    obtain ⟨v, hset, hv⟩ := h
    exact atMost_setCategoryVerbosity hset hv
  | _ => exact h.elim

/-- **A more talkative registry hides nothing.** Let two registries have come about by any histories. If
they have thresholds for the same categories, and neither the level nor a threshold is lower in the
second one, every record that the first one admits is admitted by the second one, and every statement
that the first one enables, of any severity, with or without a category, is enabled by the second one. In
one registry a smaller verbosity is as good: an informational record that is admitted is admitted with any
smaller one, and so is a statement that is enabled. Hence nothing that was shown is hidden when the level
is raised, or a threshold that is set. -/
theorem shown_by_more_talkative (l l' : Level) (history history' : List RegistryAction) :
    ((after l history).AtMost (after l' history') →
        (after l history).ShownBy (after l' history')) ∧
      (∀ x : Record, ∀ v, x.severity = .info → v ≤ x.verbosity → (after l history).admits x →
        (after l history).admits { x with verbosity := v }) ∧
      (∀ category v w, w ≤ v → (after l history).enabled .info category v →
        (after l history).enabled .info category w) ∧
      ∀ a, (after l history).Raises a →
        (after l history).ShownBy (after l (history ++ [a])) := by
  have hflag := (follows_after l history).flag
  refine ⟨fun h => h.shownBy hflag (follows_after l' history').flag, fun x v hx hv hadmits => ?_,
    fun category v w hw henabled => ?_, fun a ha => ?_⟩
  · rw [admits_iff_of_info hx] at hadmits
    rw [admits_iff_of_info (by exact hx)]
    exact Verbosity.le_trans hv hadmits
  · rw [enabled_iff] at henabled ⊢
    exact henabled.imp_right fun h => Verbosity.le_trans hw h
  · have hafter : after l (history ++ [a]) = a.change (after l history) := by
      rw [after, List.foldl_append]
      rfl
    refine AtMost.shownBy ?_ hflag (follows_after l _).flag
    rw [hafter]
    exact atMost_change ha

/-- Two levels with one threshold, and a threshold of a parent that is raised; then the level is raised
as well. -/
theorem shown_by_more_talkative_under_a_parent :
    let history : List RegistryAction := [.setCategoryLevel "top" .info]
    let history' : List RegistryAction := [.setCategoryLevel "top" .debug]
    let x : Record := ⟨.info, "top.cpu", "m", .medium, ⟨"model", 1⟩⟩
    (after .fatal history).AtMost (after .warning history') ∧
      (after .fatal history).admits x ∧ (after .warning history').admits x ∧
      (after .warning history').admits { x with verbosity := ⟨250⟩ } ∧
      (after .fatal history).Raises (.setLevel .trace) ∧
      (after .fatal (history ++ [.setLevel .trace])).admits x := by
  intro history history' x
  have hlookup (name : String) : (after .fatal history).overrides.lookup name =
      if "top" = name then some .medium else none :=
    lookup_setCategoryVerbosity "top" name .medium (ofLevel .fatal)
  have hlookup' (name : String) : (after .warning history').overrides.lookup name =
      if "top" = name then some .high else none :=
    lookup_setCategoryVerbosity "top" name .high (ofLevel .warning)
  have hmost : (after .fatal history).AtMost (after .warning history') := by
    refine ⟨by decide, fun name => ?_, fun name v v' hv hv' => ?_⟩
    · rw [hlookup, hlookup']
      split <;> simp
    · rw [hlookup] at hv
      rw [hlookup'] at hv'
      split at hv
      · next hname =>
        rw [if_pos hname] at hv'
        rw [← Option.some.inj hv, ← Option.some.inj hv']
        decide
      · simp at hv
  obtain ⟨hshown, -, -, hraised⟩ := shown_by_more_talkative .fatal .warning history history'
  obtain ⟨-, hsmaller', -, -⟩ := shown_by_more_talkative .warning .warning history' history'
  have hx : (after .fatal history).admits x := by decide
  have hraises : (after .fatal history).Raises (.setLevel .trace) := by
    show (after .fatal history).level ≤ Level.trace
    decide
  exact ⟨hmost, hx, (hshown hmost).admits x hx,
    hsmaller' { x with verbosity := .high } ⟨250⟩ rfl (by decide) (by decide), hraises,
    (hraised _ hraises).admits x hx⟩

end Logbook.Registry
