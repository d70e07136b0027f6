/-
# The names above a category

The names above a name are its beginnings that end just before one of its dots, the longest first.
They are the stops of a walk that cuts a name at its last dot again and again, until there is none.
A name covers another one if it is that name or stands above it, so that the first name of a lineage
with some mark is the longest covering name that has it.

Key definitions: `Category.Covers`, `Category.parent?`, `Category.climb`.
Key theorems: `Category.mem_lineage`, `Category.findSome?_lineage_eq_some`,
`Category.findSome?_lineage_eq_climb`.
-/
import Logbook.Category

namespace Logbook.Category

/-! ### Beginnings -/

/-- A name is another one, or a beginning of it that ends just before one of its dots. -/
def Covers (above name : String) : Prop :=
  above = name ∨ ∃ rest, name.toList = above.toList ++ '.' :: rest

theorem mem_stems {cs p : List Char} : p ∈ stems cs ↔ ∃ rest, cs = p ++ '.' :: rest := by
  induction cs generalizing p with
  | nil => simp [stems]
  | cons c cs ih =>
    have hlonger : p ∈ (stems cs).map (c :: ·) ↔ ∃ q rest, p = c :: q ∧ cs = q ++ '.' :: rest := by
      simp only [List.mem_map, ih]
      constructor
      · rintro ⟨q, ⟨rest, hq⟩, rfl⟩
        exact ⟨q, rest, rfl, hq⟩
      · rintro ⟨q, rest, rfl, hq⟩
        exact ⟨q, ⟨rest, hq⟩, rfl⟩
    have hsplit : (∃ rest, c :: cs = p ++ '.' :: rest) ↔
        (∃ q rest, p = c :: q ∧ cs = q ++ '.' :: rest) ∨ p = [] ∧ c = '.' := by
      cases p with
      | nil => simp
      | cons d q =>
        simp only [List.cons_append, List.cons.injEq, reduceCtorEq, false_and, or_false]
        constructor
        · rintro ⟨rest, rfl, hq⟩
          exact ⟨q, rest, ⟨rfl, rfl⟩, hq⟩
        · rintro ⟨q', rest, ⟨rfl, rfl⟩, hq⟩
          exact ⟨rest, rfl, hq⟩
    rw [hsplit, ← hlonger, stems]
    by_cases hc : c = '.' <;> simp [hc]

/-- The names above a name become shorter and shorter. -/
theorem stems_pairwise (cs : List Char) : (stems cs).Pairwise fun p q => q.length < p.length := by
  induction cs with
  | nil => exact .nil
  | cons c cs ih =>
    have hlonger : ((stems cs).map (c :: ·)).Pairwise fun p q => q.length < p.length :=
      List.pairwise_map.mpr (ih.imp fun h => by simpa using h)
    rw [stems]
    split
    · refine List.pairwise_append.mpr ⟨hlonger, List.pairwise_singleton _ _, ?_⟩
      intro p hp q hq
      obtain ⟨p', -, rfl⟩ := List.mem_map.mp hp
      simp [List.mem_singleton.mp hq]
    · exact hlonger

theorem mem_lineage {a name : String} : a ∈ lineage name ↔ Covers a name := by
  rw [lineage, List.mem_cons, Covers, ancestors]
  refine or_congr_right ?_
  simp only [List.mem_map, mem_stems]
  constructor
  · rintro ⟨p, ⟨rest, hp⟩, rfl⟩
    exact ⟨rest, by simpa using hp⟩
  · rintro ⟨rest, ha⟩
    exact ⟨a.toList, ⟨rest, ha⟩, String.ofList_toList⟩

theorem lineage_pairwise (name : String) :
    (lineage name).Pairwise fun a b => b.length < a.length := by
  refine List.pairwise_cons.mpr ⟨fun a ha => ?_, List.pairwise_map.mpr ?_⟩
  · obtain ⟨p, hp, rfl⟩ := List.mem_map.mp ha
    obtain ⟨rest, hname⟩ := mem_stems.mp hp
    rw [← String.length_toList, ← String.length_toList, hname]
    simp
  · exact (stems_pairwise name.toList).imp fun h => by simpa using h

/-! ### The longest name that has a mark -/

section Marks

variable {α : Type} (mark : String → Option α) (name : String)

/-- The first mark of a lineage is that of the longest covering name that has one. -/
theorem findSome?_lineage_eq_some {m : α} :
    (lineage name).findSome? mark = some m ↔
      ∃ a, Covers a name ∧ mark a = some m ∧
        ∀ b, Covers b name → a.length < b.length → mark b = none := by
  have hpair := lineage_pairwise name
  constructor
  · intro h
    obtain ⟨longer, a, shorter, hl, ha, hlonger⟩ := List.findSome?_eq_some_iff.mp h
    rw [hl, List.pairwise_append, List.pairwise_cons] at hpair
    refine ⟨a, mem_lineage.mp (by simp [hl]), ha, fun b hb hab => ?_⟩
    have hmem := mem_lineage.mpr hb
    rw [hl, List.mem_append, List.mem_cons] at hmem
    rcases hmem with hmem | rfl | hmem
    · exact hlonger b hmem
    · exact absurd hab (Nat.lt_irrefl _)
    · exact absurd hab (Nat.lt_asymm (hpair.2.1.1 b hmem))
  · rintro ⟨a, hcov, ha, hlonger⟩
    obtain ⟨longer, shorter, hl⟩ := List.append_of_mem (mem_lineage.mpr hcov)
    refine List.findSome?_eq_some_iff.mpr ⟨longer, a, shorter, hl, ha, fun b hb => ?_⟩
    rw [hl, List.pairwise_append] at hpair
    exact hlonger b (mem_lineage.mp (by simp [hl, hb])) (hpair.2.2 b hb a List.mem_cons_self)

theorem findSome?_lineage_eq_none :
    (lineage name).findSome? mark = none ↔ ∀ a, Covers a name → mark a = none := by
  simp only [List.findSome?_eq_none_iff, mem_lineage]

end Marks

/-! ### The walk upwards -/

/-- What comes before the last dot of a name, if it has one. -/
def parent? : List Char → Option (List Char)
  | [] => none
  | c :: cs =>
    match parent? cs with
    | some p => some (c :: p)
    | none => if c = '.' then some [] else none

theorem parent?_eq_none {cs : List Char} (h : parent? cs = none) : '.' ∉ cs := by
  induction cs with
  | nil => simp
  | cons c cs ih =>
    cases hp : parent? cs with
    | some p => simp [parent?, hp] at h
    | none =>
      have hc : c ≠ '.' := by
        rintro rfl
        simp [parent?, hp] at h
      simp [ih hp, Ne.symm hc]

theorem parent?_eq_some {cs p : List Char} (h : parent? cs = some p) :
    ∃ rest, cs = p ++ '.' :: rest ∧ '.' ∉ rest := by
  induction cs generalizing p with
  | nil => simp [parent?] at h
  | cons c cs ih =>
    cases hp : parent? cs with
    | some q =>
      obtain ⟨rest, rfl, hrest⟩ := ih hp
      obtain rfl : c :: q = p := by simpa [parent?, hp] using h
      exact ⟨rest, rfl, hrest⟩
    | none =>
      obtain ⟨rfl, rfl⟩ : c = '.' ∧ p = [] := by simpa [parent?, hp, eq_comm] using h
      exact ⟨cs, rfl, parent?_eq_none hp⟩

theorem length_parent? {cs p : List Char} (h : parent? cs = some p) : p.length < cs.length := by
  obtain ⟨rest, rfl, -⟩ := parent?_eq_some h
  simp

/-- Looks for a mark at a name and then at what comes before its last dot, again and again. -/
def climb {α : Type} (mark : String → Option α) (cs : List Char) : Option α :=
  match mark (String.ofList cs) with
  | some m => some m
  | none =>
    match _h : parent? cs with
    | some p => climb mark p
    | none => none
  termination_by cs.length
  decreasing_by exact length_parent? _h

theorem stems_append (xs ys : List Char) :
    stems (xs ++ ys) = (stems ys).map (xs ++ ·) ++ stems xs := by
  induction xs with
  | nil => simp [stems]
  | cons x xs ih =>
    simp only [List.cons_append, stems, ih, List.map_append, List.map_map]
    split <;> simp [Function.comp_def]

theorem stems_eq_nil {cs : List Char} (h : '.' ∉ cs) : stems cs = [] := by
  refine List.eq_nil_iff_forall_not_mem.mpr fun p hp => ?_
  obtain ⟨rest, rfl⟩ := mem_stems.mp hp
  simp at h

/-- The names above a name are the one before its last dot and the names above that. -/
theorem stems_eq_cons {cs p : List Char} (h : parent? cs = some p) : stems cs = p :: stems p := by
  obtain ⟨rest, rfl, hrest⟩ := parent?_eq_some h
  rw [stems_append, stems, stems_eq_nil hrest]
  simp

/-- Looking through a lineage is walking up. -/
theorem findSome?_lineage_eq_climb {α : Type} (mark : String → Option α) (name : String) :
    (lineage name).findSome? mark = climb mark name.toList := by
  have hwalk (cs : List Char) :
      ((cs :: stems cs).map String.ofList).findSome? mark = climb mark cs := by
    induction hn : cs.length using Nat.strongRecOn generalizing cs with
    | _ n ih =>
      rw [climb, List.map_cons, List.findSome?_cons]
      cases mark (String.ofList cs) with
      | some m => rfl
      | none =>
        dsimp only
        split
        · next p hp => rw [stems_eq_cons hp, ih p.length (hn ▸ length_parent? hp) p rfl]
        · next hp => rw [stems_eq_nil (parent?_eq_none hp)]; rfl
  have hname := hwalk name.toList
  rw [List.map_cons, String.ofList_toList] at hname
  exact hname

end Logbook.Category
