/-
# Unrelated categories do not meet

All thresholds of categories are in one table, with one note beside it on whether there are any, and every
action on a category changes the table. What a registry says of one category depends on none of that as
far as it is about other names: the actions on names that are neither the category nor above it can be
left out of the history, or put in, and nothing about the category changes. And where a threshold is set
for a category, at its own name or above, the level of the registry plays no part for its informational
records.

Key definitions: `Registry.concerns`.
Key theorems: `Registry.lastWord_filter`, `Registry.override?_after`, `Registry.answers_eq_of_filter_eq`.
-/
import Mathlib.Data.List.Induction
import Logbook.Proofs.Registry.History

namespace Logbook

instance (above name : String) : Decidable (Category.Covers above name) :=
  decidable_of_iff _ Category.mem_lineage

namespace Registry

open Scenario (RegistryAction)

/-- Whether an action may play a part for a category: every action does but those on the threshold of a
single name that is neither the category nor above it. -/
def concerns (category : String) : RegistryAction → Bool
  | .setCategoryLevel name _ | .setCategoryVerbosity name _ | .clearCategory name =>
    decide (Category.Covers name category)
  | _ => true

/-- Items that have no answer can be left out of a search for the first answer. -/
theorem findSome?_filter_of_none {α β : Type} {f : α → Option β} {p : α → Bool}
    (h : ∀ a, p a = false → f a = none) : ∀ as : List α, (as.filter p).findSome? f = as.findSome? f
  | [] => rfl
  | a :: as => by
    cases hp : p a with
    | true => rw [List.filter_cons_of_pos hp, List.findSome?_cons, List.findSome?_cons,
        findSome?_filter_of_none h as]
    | false => rw [List.filter_cons_of_neg (by simp [hp]), List.findSome?_cons, h a hp,
        findSome?_filter_of_none h as]

/-- An action that does not concern a category says nothing of a name that covers it. -/
theorem saysOf_of_not_concerns {category name : String} (hcov : Category.Covers name category)
    {a : RegistryAction} (ha : concerns category a = false) : saysOf name a = none := by
  have hother {n : String} (hn : concerns category a = decide (Category.Covers n category)) :
      n ≠ name := by
    rintro rfl
    simp [hn, hcov] at ha
  cases a with
  | setCategoryLevel n l => exact if_neg (hother rfl)
  | setCategoryVerbosity n v => exact if_neg (hother rfl)
  | clearCategory n => exact if_neg (hother rfl)
  | clearCategories => simp [concerns] at ha
  | _ => rfl

/-- An action that does not concern a category does not set the level. -/
theorem levelSet_of_not_concerns {category : String} {a : RegistryAction}
    (ha : concerns category a = false) : levelSet a = none := by
  cases a with
  | setLevel l => simp [concerns] at ha
  | _ => rfl

/-- The last word on a name that covers a category is the same without the actions that do not concern
the category. -/
theorem lastWord_filter {category name : String} (hcov : Category.Covers name category)
    (history : List RegistryAction) :
    lastWord (history.filter (concerns category)) name = lastWord history name := by
  rw [lastWord, ← List.filter_reverse,
    findSome?_filter_of_none (fun _ => saysOf_of_not_concerns hcov), ← lastWord]

theorem lastLevel_filter (l : Level) (category : String) (history : List RegistryAction) :
    lastLevel l (history.filter (concerns category)) = lastLevel l history := by
  rw [lastLevel, ← List.filter_reverse,
    findSome?_filter_of_none (fun _ => levelSet_of_not_concerns), ← lastLevel]

/-- What is set for a category is told by the actions that concern it. -/
theorem override?_of_filter_eq (l : Level) {category : String} {history history' : List RegistryAction}
    (h : history.filter (concerns category) = history'.filter (concerns category)) :
    (after l history).override? (some category) = (after l history').override? (some category) := by
  by_cases hname : category = ""
  · simp only [override?, if_pos hname]
  · have hword (name : String) (hmem : name ∈ Category.lineage category) :
        lastWord history name = lastWord history' name := by
      have hcov := Category.mem_lineage.mp hmem
      rw [← lastWord_filter hcov history, h, lastWord_filter hcov]
    have hfirst (word : String → Option Verbosity) :
        (Category.lineage category).findSome? word =
          ((Category.lineage category).map word).findSome? id := by
      rw [List.findSome?_map]
      rfl
    rw [(follows_after l history).override?_eq hname, (follows_after l history').override?_eq hname,
      hfirst, hfirst, List.map_congr_left hword]

theorem level_of_filter_eq (l : Level) {category : String} {history history' : List RegistryAction}
    (h : history.filter (concerns category) = history'.filter (concerns category)) :
    (after l history).level = (after l history').level := by
  rw [(follows_after l history).level_eq, (follows_after l history').level_eq,
    ← lastLevel_filter l category history, h, lastLevel_filter]

/-- The level plays no part for a category that a threshold is set for. -/
theorem verbosityFor_setLevels (l : Level) (history : List RegistryAction) {category : String}
    (hset : ∃ name, Category.Covers name category ∧
      (after l history).overrides.lookup name ≠ none) (hname : category ≠ "") (levels : List Level) :
    (after l (history ++ levels.map .setLevel)).verbosityFor (some category) =
      (after l history).verbosityFor (some category) := by
  have hrun (ls : List Level) :
      (after l (history ++ ls.map .setLevel)).overrides = (after l history).overrides := by
    induction ls using List.reverseRecOn with
    | nil => rw [List.map_nil, List.append_nil]
    | append_singleton ls k ih =>
      rw [List.map_append, ← List.append_assoc, ← ih, after, after, List.foldl_append]
      rfl
  have hsame : (after l (history ++ levels.map .setLevel)).override? (some category) =
      (after l history).override? (some category) := by
    simp only [override?, hrun]
  have hsome : (after l history).override? (some category) ≠ none := by
    rw [override?, if_neg hname]
    intro hnone
    obtain ⟨name, hcov, hlookup⟩ := hset
    exact hlookup ((Category.findSome?_lineage_eq_none _ category).mp hnone name hcov)
  obtain ⟨v, hv⟩ := Option.ne_none_iff_exists'.mp hsome
  rw [verbosityFor_eq (follows_after l _).flag, verbosityFor_eq (follows_after l _).flag, hsame, hv,
    Option.getD_some, Option.getD_some]

/-- **A category is not touched by what is done to unrelated ones.** Let two registries start at the
same level, and let the actions on them be the same but for thresholds set and taken away of names that
are neither a category nor above it. Then they give the same threshold for the category, the same answer
to every statement with the category, whatever its severity and its verbosity, and the same one to every
record of the category. If a threshold is set for the category, at its own name or at one above it, later
changes of the level move neither the threshold nor the answer to an informational record. -/
theorem answers_eq_of_filter_eq (l : Level) (category : String)
    (history history' : List RegistryAction)
    (h : history.filter (concerns category) = history'.filter (concerns category)) :
    (after l history).verbosityFor (some category) =
        (after l history').verbosityFor (some category) ∧
      (∀ s v, (after l history).enabled s (some category) v =
        (after l history').enabled s (some category) v) ∧
      (∀ x : Record, x.category = category → (after l history).admits x = (after l history').admits x) ∧
      (category ≠ "" →
        (∃ name, Category.Covers name category ∧ (after l history).overrides.lookup name ≠ none) →
        ∀ levels : List Level,
          (after l (history ++ levels.map .setLevel)).verbosityFor (some category) =
              (after l history).verbosityFor (some category) ∧
            ∀ x : Record, x.category = category → x.severity = .info →
              (after l (history ++ levels.map .setLevel)).admits x = (after l history).admits x) := by
  have hlevel := level_of_filter_eq l h
  have hthreshold : (after l history).verbosityFor (some category) =
      (after l history').verbosityFor (some category) := by
    rw [verbosityFor_eq (follows_after l history).flag, verbosityFor_eq (follows_after l history').flag,
      override?_of_filter_eq l h, verbosity, verbosity, hlevel]
  refine ⟨hthreshold, fun s v => ?_, ?_, fun hname hset levels => ?_⟩
  · rw [enabled, enabled, hthreshold]
  · rintro x rfl
    simp only [admits, hthreshold, hlevel]
  · have hkept := verbosityFor_setLevels l history hset hname levels
    refine ⟨hkept, ?_⟩
    rintro x rfl hx
    rw [Bool.eq_iff_iff, admits_iff_of_info hx, admits_iff_of_info hx, hkept]

/-- A name beside one that stands above the category and begins with the same letters, and one that
loses its threshold again, and then the level that lets nothing pass. -/
theorem answers_eq_of_filter_eq_beside_a_sibling :
    let history : List RegistryAction :=
      [.setCategoryLevel "top" .trace, .setCategoryLevel "topology" .debug]
    let history' : List RegistryAction :=
      [.setCategoryVerbosity "bus" ⟨7⟩, .setCategoryLevel "top" .trace, .clearCategory "bus"]
    let x : Record := ⟨.info, "top.cpu", "m", .high, ⟨"model", 1⟩⟩
    history.filter (concerns "top.cpu") = history'.filter (concerns "top.cpu") ∧
      (after .warning history).verbosityFor (some "top.cpu") = .full ∧
      (after .warning history').verbosityFor (some "top.cpu") = .full ∧
      (after .warning history).admits x = (after .warning history').admits x ∧
      (after .warning (history ++ [Level.off].map .setLevel)).verbosityFor (some "top.cpu") =
        .full := by
  intro history history' x
  have hsame : history.filter (concerns "top.cpu") = history'.filter (concerns "top.cpu") := rfl
  have hfull : (after .warning history').verbosityFor (some "top.cpu") = .full := by decide
  obtain ⟨hthreshold, -, hadmits, hlevels⟩ :=
    answers_eq_of_filter_eq .warning "top.cpu" history history' hsame
  have hkept := (hlevels (by decide) ⟨"top", by decide, by decide⟩ [.off]).1
  exact ⟨hsame, hthreshold.trans hfull, hfull, hadmits x rfl, hkept.trans (hthreshold.trans hfull)⟩

end Registry

end Logbook
