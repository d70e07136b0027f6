/-
# A registry is what was last said to it

A registry keeps its level as a position, the thresholds of categories in a table, and beside it
whether the table has anything in it, so that the common question is answered without a search.
`verbosityFor_after` says that this is as good as remembering the whole history: the threshold for a
category is the one that was last said of the longest name that covers it and that something was
last said of, and the global one when there is no such name.

Key definitions: `Registry.after`, `Registry.lastWord`, `Registry.lastLevel`, `Registry.Resolves`.
Key theorems: `Registry.Follows.change`, `Registry.verbosityFor_after`.
-/
import Logbook.Level.Reader
import Logbook.Proofs.Category.Ancestry
import Logbook.Proofs.Registry.Thresholds
import Logbook.Scenario.Play

namespace Logbook.Registry

open Scenario (RegistryAction)

/-- A registry that started at a level, after what was done with it. -/
def after (l : Level) (history : List RegistryAction) : Registry :=
  history.foldl (fun r a => a.change r) (ofLevel l)

/-! ### The last word -/

/-- What an action says of the threshold of one name, if it says anything: that it is to have one, or
that it is to have none. -/
def saysOf (name : String) : RegistryAction → Option (Option Verbosity)
  | .setCategoryLevel category l => if category = name then some (some l.verbosity) else none
  | .setCategoryVerbosity category v => if category = name then some (some v) else none
  | .clearCategory category => if category = name then some none else none
  | .clearCategories => some none
  | _ => none

/-- The level that an action sets. -/
def levelSet : RegistryAction → Option Level
  | .setLevel l => some l
  | _ => none

/-- The threshold that the last action has set that said anything of a name. -/
def lastWord (history : List RegistryAction) (name : String) : Option Verbosity :=
  (history.reverse.findSome? (saysOf name)).join

/-- The level that was set last. -/
def lastLevel (l : Level) (history : List RegistryAction) : Level :=
  (history.reverse.findSome? levelSet).getD l

/-- The threshold for a category, told by the history: that of the longest name that covers it and
of which the last word set one; the one of the last level, if there is no such name or no category
is given. -/
def Resolves (l : Level) (history : List RegistryAction) : Option String → Verbosity → Prop
  | none, v => v = (lastLevel l history).verbosity
  | some name, v =>
    (name ≠ "" ∧ ∃ a, Category.Covers a name ∧ lastWord history a = some v ∧
      ∀ b, Category.Covers b name → a.length < b.length → lastWord history b = none) ∨
    ((name = "" ∨ ∀ a, Category.Covers a name → lastWord history a = none) ∧
      v = (lastLevel l history).verbosity)

theorem lastWord_concat (history : List RegistryAction) (a : RegistryAction) (name : String) :
    lastWord (history ++ [a]) name = (saysOf name a).getD (lastWord history name) := by
  rw [lastWord, List.reverse_concat, List.findSome?_cons]
  cases saysOf name a <;> rfl

theorem lastLevel_concat (l : Level) (history : List RegistryAction) (a : RegistryAction) :
    lastLevel l (history ++ [a]) = (levelSet a).getD (lastLevel l history) := by
  rw [lastLevel, List.reverse_concat, List.findSome?_cons]
  cases levelSet a <;> rfl

/-! ### The table -/

theorem lookup_cons (category name : String) (v : Verbosity) (os : List (String × Verbosity)) :
    List.lookup name ((category, v) :: os) =
      if category = name then some v else os.lookup name := by
  by_cases h : category = name
  · simp [h]
  · simp [List.lookup_cons, h, beq_false_of_ne (Ne.symm h)]

theorem lookup_without (category name : String) (os : List (String × Verbosity)) :
    (without category os).lookup name = if category = name then none else os.lookup name := by
  induction os with
  | nil => simp [without]
  | cons o os ih =>
    obtain ⟨c, v⟩ := o
    rw [without] at ih ⊢
    by_cases hc : c = category
    · subst hc
      rw [List.filter_cons_of_neg (by simp), ih, lookup_cons]
      split <;> rfl
    · rw [List.filter_cons_of_pos (by simpa using hc), lookup_cons, lookup_cons, ih]
      split
      · next hn => rw [if_neg fun h => hc (hn.trans h.symm)]
      · rfl

theorem lookup_setCategoryVerbosity (category name : String) (v : Verbosity) (r : Registry) :
    (r.setCategoryVerbosity category v).overrides.lookup name =
      if category = name then some v else r.overrides.lookup name := by
  rw [setCategoryVerbosity, lookup_cons, lookup_without]
  split <;> rfl

/-- A registry holds what its history comes to. -/
structure Follows (l : Level) (history : List RegistryAction) (r : Registry) : Prop where
  level : r.levelCode = (lastLevel l history).code
  table : ∀ name, r.overrides.lookup name = lastWord history name
  flag : r.overridden = !r.overrides.isEmpty

theorem follows_ofLevel (l : Level) : Follows l [] (ofLevel l) := ⟨rfl, fun _ => rfl, rfl⟩

/-- Every action keeps a registry in step with its history. -/
theorem Follows.change {l : Level} {history : List RegistryAction} {r : Registry}
    (h : Follows l history r) (a : RegistryAction) :
    Follows l (history ++ [a]) (a.change r) := by
  have hset (category : String) (v : Verbosity)
      (hs : ∀ name, saysOf name a = if category = name then some (some v) else none)
      (hl : levelSet a = none) :
      Follows l (history ++ [a]) (r.setCategoryVerbosity category v) := by
    refine ⟨?_, fun name => ?_, rfl⟩
    · rw [lastLevel_concat, hl]
      exact h.level
    · rw [lookup_setCategoryVerbosity, lastWord_concat, hs, h.table]
      split <;> rfl
  have hsame {r' : Registry} (hc : r'.levelCode = ((levelSet a).getD (lastLevel l history)).code)
      (hs : ∀ name, saysOf name a = none) (ht : r'.overrides = r.overrides)
      (hf : r'.overridden = r.overridden) : Follows l (history ++ [a]) r' := by
    refine ⟨?_, fun name => ?_, ?_⟩
    · rw [lastLevel_concat, hc]
    · rw [lastWord_concat, hs, ht, h.table]
      rfl
    · rw [hf, ht, h.flag]
  cases a with
  | setLevel l' => exact hsame rfl (fun _ => rfl) rfl rfl
  | setCategoryLevel category l' => exact hset category l'.verbosity (fun _ => rfl) rfl
  | setCategoryVerbosity category v => exact hset category v (fun _ => rfl) rfl
  | clearCategory category =>
    refine ⟨?_, fun name => ?_, rfl⟩
    · rw [lastLevel_concat]
      exact h.level
    · rw [lastWord_concat]
      simp only [RegistryAction.change, clearCategory, lookup_without, saysOf, h.table]
      split <;> rfl
  | clearCategories =>
    refine ⟨?_, fun name => ?_, rfl⟩
    · rw [lastLevel_concat]
      exact h.level
    · rw [lastWord_concat]
      rfl
  | _ => exact hsame h.level (fun _ => rfl) rfl rfl

/-- A registry that follows its history goes on to do so. -/
theorem Follows.run {l : Level} {past : List RegistryAction} {r : Registry} (h : Follows l past r)
    (rest : List RegistryAction) :
    Follows l (past ++ rest) (rest.foldl (fun r a => a.change r) r) := by
  induction rest generalizing past r with
  | nil => simpa using h
  | cons a rest ih =>
    have hrest := ih (h.change a)
    rwa [List.append_assoc, List.singleton_append] at hrest

/-- A registry follows its history at any time. -/
theorem follows_after (l : Level) (history : List RegistryAction) :
    Follows l history (after l history) := (follows_ofLevel l).run history

/-! ### Thresholds -/

theorem Follows.level_eq {l : Level} {history : List RegistryAction} {r : Registry}
    (h : Follows l history r) : r.level = lastLevel l history := by
  rw [Registry.level, h.level, Level.ofCode?_code]
  rfl

theorem Follows.verbosity_eq {l : Level} {history : List RegistryAction} {r : Registry}
    (h : Follows l history r) : r.verbosity = (lastLevel l history).verbosity := by
  rw [Registry.verbosity, h.level_eq]

/-- What is set for a category is what the last words on the names that cover it set. -/
theorem Follows.override?_eq {l : Level} {history : List RegistryAction} {r : Registry}
    (h : Follows l history r) {name : String} (hn : name ≠ "") :
    r.override? (some name) = (Category.lineage name).findSome? (lastWord history) := by
  rw [override?, if_neg hn, funext h.table]

/-- The answer that needs no search is the one that the search would have given. -/
theorem Follows.verbosityFor_eq {l : Level} {history : List RegistryAction} {r : Registry}
    (h : Follows l history r) {name : String} (hn : name ≠ "") :
    r.verbosityFor (some name) =
      ((Category.lineage name).findSome? (lastWord history)).getD r.verbosity := by
  rw [Registry.verbosityFor_eq h.flag, h.override?_eq hn]

/-- **A registry answers by its history.** After any actions on a registry that started at any level:
the note that there are thresholds for categories is right, the position of the level is one, and it
is that of the level set last. The threshold for a category is that of the longest name that covers
it and of which the last word set one, and the one of the last level if there is no such name, or no
category, or the empty one. That is also what walking up from the category through the whole table
finds. -/
theorem verbosityFor_after (l : Level) (history : List RegistryAction) :
    ((after l history).overridden = true ↔ (after l history).overrides ≠ []) ∧
      (after l history).levelCode ≤ 7 ∧
      Level.ofCode (after l history).levelCode = .ok (lastLevel l history) ∧
      (∀ category v,
        (after l history).verbosityFor category = v ↔ Resolves l history category v) ∧
      ∀ name, name ≠ "" → (after l history).verbosityFor (some name) =
        (Category.climb (fun n => (after l history).overrides.lookup n) name.toList).getD
          (after l history).verbosity := by
  have h := follows_after l history
  generalize after l history = r at h ⊢
  refine ⟨by simp [h.flag], ?_, ?_, fun category v => ?_, fun name hn => ?_⟩
  · rw [h.level]
    cases lastLevel l history <;> decide
  · rw [Level.ofCode, h.level, Level.ofCode?_code]
  · cases category with
    | none =>
      rw [Registry.verbosityFor, h.verbosity_eq, Resolves]
      exact eq_comm
    | some name =>
      rw [Resolves]
      by_cases hn : name = ""
      · subst hn
        have hglobal : r.verbosityFor (some "") = r.verbosity := rfl
        rw [hglobal, h.verbosity_eq]
        simp [eq_comm]
      · rw [h.verbosityFor_eq hn, h.verbosity_eq]
        simp only [hn, ne_eq, not_false_eq_true, true_and, false_or,
          ← Category.findSome?_lineage_eq_some, ← Category.findSome?_lineage_eq_none]
        cases (Category.lineage name).findSome? (lastWord history) <;> simp [eq_comm]
  · rw [h.verbosityFor_eq hn, ← Category.findSome?_lineage_eq_climb, ← funext h.table]

end Logbook.Registry
