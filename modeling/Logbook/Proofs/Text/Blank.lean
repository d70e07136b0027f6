/-
# Words, gaps and ends

A text is made of words, which have no blanks, and of gaps, which are nothing but blanks (`MadeOf`), and this
in one way only: the pieces between its blanks are the words that it is made of (`madeOf_iff`). Freed of the
blanks at its ends, a text is what stands between two gaps and neither starts nor ends with a blank
(`trim_eq_iff`). That is a single word exactly if the text is made of this word alone.

Key definitions: `Text.IsGap`, `Text.IsWord`, `Text.MadeOf`, `Text.Trims`.
Key theorems: `Text.madeOf_iff`, `Text.MadeOf.firstWord?_eq`, `Text.trim_eq_iff`,
`Text.trims_word_iff`.
-/
import Logbook.Text.Blank

namespace Logbook.Text

/-- A gap is nothing but blanks. -/
def IsGap (cs : List Char) : Prop := ∀ c ∈ cs, isBlank c = true

/-- A word has characters, none of which is a blank. -/
def IsWord (w : List Char) : Prop := w ≠ [] ∧ ∀ c ∈ w, isBlank c = false

/-- A text is made of words, with gaps around them: where a word ends, the text ends or a blank follows. -/
inductive MadeOf : List Char → List (List Char) → Prop where
  | gap {g : List Char} : IsGap g → MadeOf g []
  | word {g w rest : List Char} {ws : List (List Char)} : IsGap g → IsWord w →
    (∀ c ∈ rest.head?, isBlank c = true) → MadeOf rest ws → MadeOf (g ++ w ++ rest) (w :: ws)

theorem isGap_nil : IsGap [] := by simp [IsGap]

theorem isGap_cons {c : Char} {g : List Char} : IsGap (c :: g) ↔ isBlank c = true ∧ IsGap g :=
  List.forall_mem_cons

theorem IsGap.head {g : List Char} (h : IsGap g) : ∀ c ∈ g.head?, isBlank c = true :=
  fun _ hc => h _ (List.mem_of_mem_head? hc)

theorem IsWord.cons {c : Char} {w : List Char} (hc : isBlank c = false) (hw : ∀ d ∈ w, isBlank d = false) :
    IsWord (c :: w) :=
  ⟨List.cons_ne_nil c w, List.forall_mem_cons.mpr ⟨hc, hw⟩⟩

/-! ### Leading blanks -/

theorem trimStart_gap {g : List Char} (hg : IsGap g) (rest : List Char) :
    trimStart (g ++ rest) = trimStart rest := by
  induction g with
  | nil => rfl
  | cons c g ih =>
    obtain ⟨hc, hrest⟩ := isGap_cons.mp hg
    rw [List.cons_append, trimStart, if_pos hc, ih hrest]

theorem trimStart_of_gap {g : List Char} (hg : IsGap g) : trimStart g = [] := by
  rw [← List.append_nil g, trimStart_gap hg]
  rfl

theorem trimStart_of_starts {cs : List Char} (h : ∀ c ∈ cs.head?, isBlank c = false) : trimStart cs = cs := by
  cases cs with
  | nil => rfl
  | cons c cs => rw [trimStart, if_neg (by simp [h c rfl])]

/-! ### Words -/

theorem words_gap {g : List Char} (hg : IsGap g) (rest : List Char) : words (g ++ rest) = words rest := by
  induction g with
  | nil => rfl
  | cons c g ih =>
    obtain ⟨hc, hrest⟩ := isGap_cons.mp hg
    rw [← ih hrest, words, words, List.cons_append, wordsFrom, if_pos hc]
    rfl

theorem wordsFrom_append {w : List Char} (hw : ∀ c ∈ w, isBlank c = false) (word rest : List Char) :
    wordsFrom word (w ++ rest) = wordsFrom (w.reverse ++ word) rest := by
  induction w generalizing word with
  | nil => rfl
  | cons c w ih =>
    obtain ⟨hc, hrest⟩ := List.forall_mem_cons.mp hw
    rw [List.cons_append, wordsFrom, if_neg (by simp [hc]), ih hrest, List.reverse_cons, List.append_assoc]
    rfl

/-- A word that is being read ends where the text ends or a blank follows. -/
theorem wordsFrom_of_ends {word rest : List Char} (hword : word ≠ []) (hend : ∀ c ∈ rest.head?, isBlank c = true) :
    wordsFrom word rest = word.reverse :: words rest := by
  have hsome : word.isEmpty = false := by simpa using hword
  cases rest with
  | nil => simp [wordsFrom, words, hsome]
  | cons c rest =>
    have hc : isBlank c = true := hend c rfl
    simp [wordsFrom, words, hc, hsome]

/-- The pieces between blanks are the words that a text is made of. -/
theorem MadeOf.words_eq {cs : List Char} {ws : List (List Char)} (h : MadeOf cs ws) : words cs = ws := by
  induction h with
  | @gap g hg =>
    have hnothing := words_gap hg []
    rw [List.append_nil] at hnothing
    exact hnothing
  | @word g w rest ws hg hw hend _ ih =>
    have hword : w.reverse ≠ [] := by simpa using hw.1
    rw [List.append_assoc, words_gap hg, words, wordsFrom_append hw.2, List.append_nil,
      wordsFrom_of_ends hword hend, List.reverse_reverse, ih]

/-- Every text is made of some words. A blank in front makes the first gap longer; any other character
starts the first word, or makes it longer if there is no gap in front of it. -/
theorem exists_madeOf (cs : List Char) : ∃ ws, MadeOf cs ws := by
  induction cs with
  | nil => exact ⟨[], .gap isGap_nil⟩
  | cons c cs ih =>
    obtain ⟨ws, hws⟩ := ih
    cases hc : isBlank c with
    | true =>
      cases hws with
      | gap hg => exact ⟨[], .gap (isGap_cons.mpr ⟨hc, hg⟩)⟩
      | @word g w rest ws hg hw hend hrest => exact ⟨w :: ws, .word (isGap_cons.mpr ⟨hc, hg⟩) hw hend hrest⟩
    | false =>
      have hletter : IsWord [c] := .cons hc (by simp)
      cases hws with
      | gap hg => exact ⟨[[c]], .word isGap_nil hletter hg.head (.gap hg)⟩
      | @word g w rest ws hg hw hend hrest =>
        cases g with
        | nil => exact ⟨(c :: w) :: ws, .word isGap_nil (.cons hc hw.2) hend hrest⟩
        | cons b g =>
          have hb : isBlank b = true := (isGap_cons.mp hg).1
          exact ⟨[c] :: w :: ws, .word isGap_nil hletter (by simpa using hb) (.word hg hw hend hrest)⟩

/-- **A text is made of its words** and of no others. -/
theorem madeOf_iff {cs : List Char} {ws : List (List Char)} : MadeOf cs ws ↔ words cs = ws := by
  constructor
  · exact MadeOf.words_eq
  · rintro rfl
    obtain ⟨ws, hws⟩ := exists_madeOf cs
    rwa [hws.words_eq]

/-- The first word is found without the others. -/
theorem MadeOf.firstWord?_eq {cs : List Char} {ws : List (List Char)} (h : MadeOf cs ws) :
    firstWord? cs = ws.head? := by
  cases h with
  | gap hg => rw [firstWord?, trimStart_of_gap hg]; rfl
  | @word g w rest ws hg hw hend _ =>
    obtain ⟨hne, hletters⟩ := hw
    obtain ⟨c, w, rfl⟩ := List.exists_cons_of_ne_nil hne
    have hc : isBlank c = false := hletters c List.mem_cons_self
    have hstart : trimStart (g ++ (c :: w) ++ rest) = c :: (w ++ rest) := by
      rw [List.append_assoc, trimStart_gap hg, List.cons_append]
      exact trimStart_of_starts (by simpa using hc)
    have hword : firstWord (c :: (w ++ rest)) = c :: w := by
      rw [firstWord, ← List.cons_append,
        List.takeWhile_append_of_pos fun d hd => by rw [hletters d hd]; rfl]
      cases rest with
      | nil => exact List.append_nil (c :: w)
      | cons d rest => rw [List.takeWhile_cons_of_neg (by simp [hend d rfl]), List.append_nil]
    rw [firstWord?, hstart]
    exact congrArg some hword

/-! ### Ends -/

/-- A text is what stands between two gaps in another one, and neither starts nor ends with a blank. -/
structure Trims (cs t : List Char) : Prop where
  between : ∃ front back, IsGap front ∧ IsGap back ∧ cs = front ++ t ++ back
  starts : ∀ c ∈ t.head?, isBlank c = false
  ends : ∀ c ∈ t.getLast?, isBlank c = false

/-- What is left when the trailing blanks are taken off. -/
theorem trimEnd_of_ends {t : List Char} (ht : ∀ c ∈ t.getLast?, isBlank c = false) {back : List Char}
    (hback : IsGap back) : trimEnd (t ++ back) = t := by
  have hgap : trimEnd back = [] := by
    induction back with
    | nil => rfl
    | cons c back ih =>
      obtain ⟨hc, hrest⟩ := isGap_cons.mp hback
      rw [trimEnd, ih hrest]
      exact if_pos hc
  induction t with
  | nil => exact hgap
  | cons c t ih =>
    rw [List.cons_append, trimEnd]
    cases t with
    | nil =>
      have hc : isBlank c = false := ht c rfl
      rw [List.nil_append, hgap]
      simp [hc]
    | cons d t =>
      rw [ih ht]

theorem exists_trimEnd (cs : List Char) :
    ∃ back, IsGap back ∧ cs = trimEnd cs ++ back ∧ ∀ c ∈ (trimEnd cs).getLast?, isBlank c = false := by
  induction cs with
  | nil => exact ⟨[], isGap_nil, rfl, by simp [trimEnd]⟩
  | cons c cs ih =>
    obtain ⟨back, hback, hcs, hends⟩ := ih
    rw [trimEnd]
    cases hrest : trimEnd cs with
    | nil =>
      rw [hrest, List.nil_append] at hcs
      subst hcs
      cases hc : isBlank c with
      | true => exact ⟨c :: cs, isGap_cons.mpr ⟨hc, hback⟩, rfl, by simp⟩
      | false => exact ⟨cs, hback, rfl, by simpa using hc⟩
    | cons d t =>
      rw [hrest] at hcs hends
      exact ⟨back, hback, by rw [hcs]; rfl, by simpa using hends⟩

theorem exists_trimStart (cs : List Char) :
    ∃ front, IsGap front ∧ cs = front ++ trimStart cs ∧ ∀ c ∈ (trimStart cs).head?, isBlank c = false := by
  induction cs with
  | nil => exact ⟨[], isGap_nil, rfl, by simp [trimStart]⟩
  | cons c cs ih =>
    obtain ⟨front, hfront, hcs, hstarts⟩ := ih
    rw [trimStart]
    cases hc : isBlank c with
    | true => exact ⟨c :: front, isGap_cons.mpr ⟨hc, hfront⟩, by simpa using hcs, by simpa using hstarts⟩
    | false => exact ⟨[], isGap_nil, rfl, by simpa using hc⟩

/-- **Trimming leaves what stands between the gaps at the ends** and nothing else. -/
theorem trim_eq_iff {cs t : List Char} : trim cs = t ↔ Trims cs t := by
  constructor
  · rintro rfl
    obtain ⟨front, hfront, hcs, hstarts⟩ := exists_trimStart cs
    obtain ⟨back, hback, hrest, hends⟩ := exists_trimEnd (trimStart cs)
    refine ⟨⟨front, back, hfront, hback, ?_⟩, fun c hc => ?_, hends⟩
    · rw [trim, List.append_assoc, ← hrest, ← hcs]
    · have hfirst : (trim cs).head? = some c := hc
      refine hstarts c ?_
      rw [hrest, List.head?_append]
      exact congrArg (Option.or · back.head?) hfirst
  · rintro ⟨⟨front, back, hfront, hback, rfl⟩, hstarts, hends⟩
    rw [trim, List.append_assoc, trimStart_gap hfront]
    cases t with
    | nil => rw [List.nil_append, trimStart_of_gap hback]; rfl
    | cons c t =>
      have hstart : trimStart (c :: t ++ back) = c :: t ++ back := trimStart_of_starts hstarts
      rw [hstart]
      exact trimEnd_of_ends hends hback

/-- What is left is one word exactly if the text is made of it alone. -/
theorem trims_word_iff {cs w : List Char} (hw : IsWord w) : Trims cs w ↔ MadeOf cs [w] := by
  constructor
  · rintro ⟨⟨front, back, hfront, hback, rfl⟩, -, -⟩
    exact .word hfront hw hback.head (.gap hback)
  · intro h
    cases h with
    | @word g w rest ws hg hw' hend hrest =>
      cases hrest with
      | gap hback =>
        exact ⟨⟨g, rest, hg, hback, rfl⟩, fun c hc => hw.2 c (List.mem_of_mem_head? hc),
          fun c hc => hw.2 c (List.mem_of_mem_getLast? hc)⟩

end Logbook.Text
