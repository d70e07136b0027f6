/-
# The two readers of levels agree

The lenient reader looks at the first word of a text, the strict one at the text without the blanks around
it. A name of a level is a word, so the strict reader finds one exactly where the lenient one does and no
other word follows; everything else it gives back without the blanks around it (`readers_agree`).

Key theorems: `Level.ofName?_eq_some`, `Level.readWord?_eq_some`, `Level.parse_eq_ok`,
`Level.readers_agree`.
-/
import Logbook.Level.Reader
import Logbook.Proofs.Text.Blank

namespace Logbook.Level

open Text (IsWord MadeOf Trims)

/-! ### Names -/

theorem ofName?_name (l : Level) : ofName? l.name = some l := by cases l <;> decide

theorem ofName?_eq_some {s : String} {l : Level} : ofName? s = some l ↔ s = l.name := by
  constructor
  · intro h
    have hname := List.find?_some h
    exact (beq_iff_eq.mp hname).symm
  · rintro rfl
    exact ofName?_name l

theorem ofName?_eq_none {s : String} : ofName? s = none ↔ ∀ l : Level, s ≠ l.name := by
  simp only [← ofName?_eq_some, Option.eq_none_iff_forall_not_mem, Option.mem_def, ne_eq]

/-- The name of a level is a word. -/
theorem isWord_name (l : Level) : IsWord l.name.toList := by
  have hplain : (l.name.toList.all fun c => !Text.isBlank c) = true := by cases l <;> decide
  constructor
  · cases l <;> decide
  · simpa using hplain

/-! ### Readers -/

/-- The lenient reader finds the level whose name is the first word. -/
theorem readWord?_eq_some {s : String} {l : Level} :
    readWord? s = some l ↔ ∃ ws, MadeOf s.toList (l.name.toList :: ws) := by
  obtain ⟨ws, hws⟩ := Text.exists_madeOf s.toList
  have hunique {ws' : List (List Char)} (h : MadeOf s.toList ws') : ws' = ws :=
    h.words_eq.symm.trans hws.words_eq
  rw [readWord?, hws.firstWord?_eq]
  cases ws with
  | nil =>
    refine iff_of_false (by simp) ?_
    rintro ⟨ws', h⟩
    exact absurd (hunique h) (List.cons_ne_nil _ _)
  | cons w ws =>
    rw [List.head?_cons]
    refine ofName?_eq_some.trans ⟨fun hname => ⟨ws, ?_⟩, ?_⟩
    · rwa [← hname, String.toList_ofList]
    · rintro ⟨ws', h⟩
      rw [← (List.cons.inj (hunique h)).1, String.ofList_toList]

theorem readInto_eq_true {s : String} {held l : Level} :
    readInto s held = (true, l) ↔ readWord? s = some l := by
  rw [readInto]
  cases readWord? s <;> simp

theorem readInto_of_none {s : String} (h : readWord? s = none) (held : Level) :
    readInto s held = (false, held) := by
  rw [readInto, h]

/-- The strict reader finds the level whose name is the only word. -/
theorem parse_eq_ok {s : String} {l : Level} : parse s = .ok l ↔ MadeOf s.toList [l.name.toList] := by
  have htrimmed : parse s = .ok l ↔ ofName? (String.ofList (Text.trim s.toList)) = some l := by
    rw [parse]
    cases ofName? (String.ofList (Text.trim s.toList)) <;> simp
  rw [htrimmed, ofName?_eq_some, ← Text.trims_word_iff (isWord_name l), ← Text.trim_eq_iff,
    ← String.toList_inj, String.toList_ofList]

/-- The strict reader gives back what it could not read, without the blanks around it. -/
theorem parse_eq_error {s : String} {e : LevelError} :
    parse s = .error e ↔
      ∃ input, e = .unknown input ∧ Trims s.toList input.toList ∧ ∀ l : Level, input ≠ l.name := by
  have htrimmed : parse s = .error e ↔
      e = .unknown (String.ofList (Text.trim s.toList)) ∧
        ofName? (String.ofList (Text.trim s.toList)) = none := by
    rw [parse]
    cases ofName? (String.ofList (Text.trim s.toList)) <;> simp [eq_comm]
  rw [htrimmed, ofName?_eq_none]
  constructor
  · rintro ⟨he, hnames⟩
    exact ⟨_, he, Text.trim_eq_iff.mp String.toList_ofList.symm, hnames⟩
  · rintro ⟨input, he, htrims, hnames⟩
    obtain rfl : String.ofList (Text.trim s.toList) = input := by
      rw [Text.trim_eq_iff.mpr htrims, String.ofList_toList]
    exact ⟨he, hnames⟩

/-- **The readers agree.** The lenient reader finds a level and puts it in the place of the one that is held
exactly if the first word of the text is its name; if it is the name of none, what is held stays. The strict
reader finds a level exactly if the lenient one does and no second word follows. It fails with the text
freed of the blanks at its ends, exactly if that is the name of no level, be it empty or made of several
words. -/
theorem readers_agree (s : String) :
    (∀ held l, readInto s held = (true, l) ↔ ∃ ws, MadeOf s.toList (l.name.toList :: ws)) ∧
      (∀ held, (∀ (l : Level) ws, ¬ MadeOf s.toList (l.name.toList :: ws)) →
        readInto s held = (false, held)) ∧
      (∀ held l, parse s = .ok l ↔
        readInto s held = (true, l) ∧ ∀ w w' ws, ¬ MadeOf s.toList (w :: w' :: ws)) ∧
      ∀ e, parse s = .error e ↔
        ∃ input, e = .unknown input ∧ Trims s.toList input.toList ∧ ∀ l : Level, input ≠ l.name := by
  have hlenient (held l : Level) :
      readInto s held = (true, l) ↔ ∃ ws, MadeOf s.toList (l.name.toList :: ws) :=
    readInto_eq_true.trans readWord?_eq_some
  refine ⟨hlenient, fun held hnone => ?_, fun held l => ?_, fun e => parse_eq_error⟩
  · refine readInto_of_none (Option.eq_none_iff_forall_ne_some.mpr fun l hl => ?_) held
    obtain ⟨ws, hws⟩ := readWord?_eq_some.mp hl
    exact hnone l ws hws
  · rw [hlenient, parse_eq_ok]
    constructor
    · intro h
      refine ⟨⟨[], h⟩, fun w w' ws h' => ?_⟩
      have hsame : [l.name.toList] = w :: w' :: ws := h.words_eq.symm.trans h'.words_eq
      simp at hsame
    · rintro ⟨⟨ws, hws⟩, halone⟩
      cases ws with
      | nil => exact hws
      | cons w ws => exact absurd hws (halone _ _ _)

/-- A name among blanks of several kinds with another word behind it, a name in the wrong letter case in
front of a right one, a name alone, and no word at all. -/
theorem readers_agree_on_blanks :
    readInto "\u2003DEBUG\u00a0trailing " .warning = (true, .debug) ∧
      parse "\u2003DEBUG\u00a0trailing " = .error (.unknown "DEBUG\u00a0trailing") ∧
      readInto "debug\tDEBUG" .warning = (false, .warning) ∧
      parse "\n TRACEALL\u3000" = .ok .traceAll ∧
      parse " \u0085" = .error (.unknown "") := by
  obtain ⟨hfirst, -, -, hfails⟩ := readers_agree "\u2003DEBUG\u00a0trailing "
  obtain ⟨-, hkeeps, -, -⟩ := readers_agree "debug\tDEBUG"
  obtain ⟨hname, -, halone, -⟩ := readers_agree "\n TRACEALL\u3000"
  obtain ⟨-, -, -, hempty⟩ := readers_agree " \u0085"
  have hnone : ∀ (l : Level) ws, ¬ MadeOf "debug\tDEBUG".toList (l.name.toList :: ws) := by
    intro l ws h
    have hwords : "debug".toList :: ["DEBUG".toList] = l.name.toList :: ws := h.words_eq
    exact absurd (List.cons.inj hwords).1 (by cases l <;> decide)
  have hsingle : ∀ w w' ws, ¬ MadeOf "\n TRACEALL\u3000".toList (w :: w' :: ws) := by
    intro w w' ws h
    have hwords : ["TRACEALL".toList] = w :: w' :: ws := h.words_eq
    simp at hwords
  exact ⟨(hfirst _ _).mpr ⟨["trailing".toList], Text.madeOf_iff.mpr (by decide)⟩,
    (hfails _).mpr ⟨_, rfl, Text.trim_eq_iff.mp (by decide), by intro l; cases l <;> decide⟩,
    hkeeps _ hnone,
    (halone .off _).mpr ⟨(hname _ _).mpr ⟨[], Text.madeOf_iff.mpr (by decide)⟩, hsingle⟩,
    (hempty _).mpr ⟨_, rfl, Text.trim_eq_iff.mp (by decide), by intro l; cases l <;> decide⟩⟩

end Logbook.Level
