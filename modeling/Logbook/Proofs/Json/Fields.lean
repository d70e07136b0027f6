/-
# The fields of a document

A document with named fields keeps the members that bear one of the names, in their order, and is refused
if one of these names occurs twice. Where all that is kept are fields of a given document, a field is read
to the value that it has there, or is absent.

Key definition: `Fields.kept`.
Key theorems: `Value.count_of_members?`, `Value.fields?_record`, `Value.fields?_of_repeated`,
`Fields.optional_of_subset`, `Fields.required_of_subset`.
-/
import Logbook.Json.Fields
import Mathlib.Data.List.Nodup

namespace Logbook.Json

/-- The members that bear one of the names. -/
def Fields.kept (names : List String) (ms : Fields) : Fields := ms.filter fun m => names.contains m.1

namespace Value

/-- Each name occurs among the kept members as often as among all. -/
theorem count_of_members? {names : List String} {name : String} (hname : name ∈ names)
    (ms : List (Words × Value)) : ∀ {fs : Fields}, members? names ms = some fs →
      (fs.map Prod.fst).count name = (ms.map Prod.fst).count (.whole name) := by
  induction ms with
  | nil =>
    intro fs h
    obtain rfl : [] = fs := Option.some.inj h
    rfl
  | cons m ms ih =>
    intro fs h
    obtain ⟨n | _, v⟩ := m
    · rw [members?, Option.map_eq_some_iff] at h
      obtain ⟨rest, hrest, rfl⟩ := h
      have ih := ih hrest
      by_cases hn : n = name
      · subst hn
        simp [hname, ih]
      · split <;> simp [ih, hn]
    · cases h

theorem members?_record (names : List String) (ms : Fields) :
    members? names (ms.map fun m => (.whole m.1, m.2)) = some (ms.kept names) := by
  induction ms with
  | nil => rfl
  | cons m ms ih => rw [List.map_cons, members?, ih, Option.map_some, Fields.kept, Fields.kept, List.filter_cons]

theorem distinct_iff (fs : Fields) : distinct fs = true ↔ (fs.map Prod.fst).Nodup := by
  induction fs with
  | nil => simp [distinct]
  | cons f fs ih =>
    have hfirst : (!(fs.any fun g => g.1 == f.1)) = true ↔ f.1 ∉ fs.map Prod.fst := by
      rw [Bool.not_eq_true', ← Bool.not_eq_true, not_iff_not, List.any_eq_true, List.mem_map]
      simp only [beq_iff_eq]
    rw [distinct, List.map_cons, List.nodup_cons, Bool.and_eq_true, ih, hfirst]

/-- An object that names no field twice gives the members that bear one of the names. -/
theorem fields?_record {names : List String} {ms : Fields}
    (h : ∀ name ∈ names, (ms.map Prod.fst).count name ≤ 1) :
    (Value.record ms).fields? names = some (ms.kept names) := by
  have hdistinct : distinct (ms.kept names) = true := by
    rw [distinct_iff, List.nodup_iff_count_le_one]
    intro name
    by_cases hname : name ∈ names
    · have hkept : ((ms.kept names).map Prod.fst).Sublist (ms.map Prod.fst) :=
        List.filter_sublist.map Prod.fst
      exact Nat.le_trans (hkept.count_le name) (h name hname)
    · have hgone : name ∉ (ms.kept names).map Prod.fst := fun hmem => by
        obtain ⟨m, hm, rfl⟩ := List.mem_map.mp hmem
        exact hname (by simpa using (List.mem_filter.mp hm).2)
      rw [List.count_eq_zero.mpr hgone]
      omega
  simp only [fields?, record, members?_record, if_pos hdistinct]

/-- The fields of an object are named as often as in the object. -/
theorem count_of_fields? {names : List String} {name : String} (hname : name ∈ names)
    {ms : List (Words × Value)} {fs : Fields} (h : (Value.object ms).fields? names = some fs) :
    (fs.map Prod.fst).count name = (ms.map Prod.fst).count (.whole name) ∧
      (fs.map Prod.fst).count name ≤ 1 := by
  rw [fields?] at h
  cases hms : members? names ms with
  | none => simp [hms] at h
  | some gs =>
    by_cases hdistinct : distinct gs = true
    · obtain rfl : gs = fs := by simpa [hms, hdistinct] using h
      exact ⟨count_of_members? hname ms hms,
        List.nodup_iff_count_le_one.mp ((distinct_iff gs).mp hdistinct) name⟩
    · simp [hms, hdistinct] at h

/-- An object that names a field twice is refused. -/
theorem fields?_of_repeated {names : List String} {name : String} (hname : name ∈ names)
    {ms : List (Words × Value)} (h : 2 ≤ (ms.map Prod.fst).count (.whole name)) :
    (Value.object ms).fields? names = none := by
  cases hfs : (Value.object ms).fields? names with
  | none => rfl
  | some fs =>
    obtain ⟨hcount, honce⟩ := count_of_fields? hname hfs
    omega

end Value

namespace Fields

variable {α : Type} {fs gs : Fields}

theorem lookup_of_mem (hgs : (gs.map Prod.fst).Nodup) {f : String × Value} (hf : f ∈ gs) :
    gs.lookup f.1 = some f.2 := by
  induction gs with
  | nil => cases hf
  | cons g gs ih =>
    rw [List.map_cons, List.nodup_cons] at hgs
    rcases List.mem_cons.mp hf with rfl | hf
    · exact List.lookup_cons_self
    · have hne : (f.1 == g.1) = false := by
        rw [beq_eq_false_iff_ne]
        exact fun heq => hgs.1 (heq ▸ List.mem_map_of_mem hf)
      rw [List.lookup_cons, hne]
      exact ih hgs.2 hf

theorem mem_names_kept {names : List String} {name : String} (hname : name ∈ names) :
    name ∈ (fs.kept names).map Prod.fst ↔ name ∈ fs.map Prod.fst := by
  constructor
  · intro h
    obtain ⟨f, hf, rfl⟩ := List.mem_map.mp h
    exact List.mem_map_of_mem (List.mem_of_mem_filter hf)
  · intro h
    obtain ⟨f, hf, rfl⟩ := List.mem_map.mp h
    exact List.mem_map_of_mem (List.mem_filter.mpr ⟨hf, by simpa using hname⟩)

theorem kept_subset {names : List String} (h : ∀ f ∈ fs, f.1 ∈ names → f ∈ gs) :
    ∀ f ∈ fs.kept names, f ∈ gs := by
  intro f hf
  obtain ⟨hf, hname⟩ := List.mem_filter.mp hf
  exact h f hf (by simpa using hname)

theorem lookup_eq_none {name : String} (h : name ∉ fs.map Prod.fst) : fs.lookup name = none := by
  rw [List.lookup_eq_none_iff]
  intro f hf
  rw [bne_iff_ne]
  exact fun heq => h (heq ▸ List.mem_map_of_mem hf)

/-- A field that is kept has the value that it has among all fields. -/
theorem lookup_of_subset (hgs : (gs.map Prod.fst).Nodup) (hfs : ∀ f ∈ fs, f ∈ gs) {name : String}
    (hname : name ∈ fs.map Prod.fst) : fs.lookup name = gs.lookup name := by
  cases hv : fs.lookup name with
  | none =>
    obtain ⟨f, hf, rfl⟩ := List.mem_map.mp hname
    exact absurd (List.lookup_eq_none_iff.mp hv f hf) (by simp)
  | some v =>
    obtain ⟨before, after, rfl, -⟩ := List.lookup_eq_some_iff.mp hv
    exact (lookup_of_mem hgs (hfs (name, v) (by simp))).symm

theorem optional_of_subset (hgs : (gs.map Prod.fst).Nodup) (hfs : ∀ f ∈ fs, f ∈ gs) {name : String}
    {v : Value} (hv : gs.lookup name = some v) {read : Value → Option α} {a : α} (hread : read v = some a)
    (absent : α) :
    fs.optional name read absent = some (if name ∈ fs.map Prod.fst then a else absent) := by
  by_cases hname : name ∈ fs.map Prod.fst
  · rw [optional, lookup_of_subset hgs hfs hname, hv, if_pos hname]
    exact hread
  · rw [optional, lookup_eq_none hname, if_neg hname]

theorem required_of_subset (hgs : (gs.map Prod.fst).Nodup) (hfs : ∀ f ∈ fs, f ∈ gs) {name : String}
    {v : Value} (hv : gs.lookup name = some v) {read : Value → Option α} {a : α} (hread : read v = some a)
    (hname : name ∈ fs.map Prod.fst) : fs.required name read = some a := by
  rw [required, lookup_of_subset hgs hfs hname, hv, Option.bind_some, hread]

end Fields

end Logbook.Json
