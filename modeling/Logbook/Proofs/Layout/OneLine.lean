/-
# A record is one line

Nothing that a layout puts in front of a message has a newline of its own: times are digits and
separators, levels are names, and so are the sequences around them. So the line of a record is one line
if its category and its message are.

Key theorems: `Stamp.oneLine_text`, `Layout.oneLine_text`.
-/
import Logbook.Proofs.Layout.Line
import Logbook.Proofs.Text.Newline

namespace Logbook

open Text (OneLine)

theorem Stamp.oneLine_text (s : Stamp) : OneLine s.text := by
  cases s with
  | time whole thousandths unit =>
    have hdecimals : '\n' ∉ Text.padStart 3 '0' (toString thousandths).toList := by
      rw [Text.padStart, List.mem_append, not_or]
      refine ⟨fun h => ?_, Text.oneLine_natural thousandths⟩
      exact absurd (List.eq_of_mem_replicate h) (by decide)
    have hsign : OneLine unit.sign := by cases unit <;> decide
    have hpoint : OneLine "." := by decide
    have hblank : OneLine " " := by decide
    simp only [text, Text.oneLine_append, Text.oneLine_ofList, Text.oneLine_natural, hdecimals, hsign, hpoint,
      hblank, not_false_eq_true, and_self]
  | cycles count =>
    have hunit : OneLine " cycles" := by decide
    simp only [text, Text.oneLine_append, Text.oneLine_natural, hunit, and_self]

namespace Layout

theorem oneLine_front (x : Layout) {m : Moment} (h : x.wallTime = true → OneLine m.wall) :
    OneLine (x.front m) := by
  have hnothing : OneLine "" := by decide
  have hopen : OneLine "[" := by decide
  have hclose : OneLine "] " := by decide
  have hdeltas : OneLine " (" := by decide
  have hdeltasEnd : OneLine ")] " := by decide
  rw [front, Text.oneLine_append]
  constructor
  · unfold wallPart
    split
    · next hw => simp [h hw, hopen, hclose]
    · exact hnothing
  · unfold timePart
    split
    · split
      · split
        · simp only [Text.oneLine_append, Text.oneLine_natural, Stamp.oneLine_text, hopen, hdeltas,
            hdeltasEnd, and_self]
        · simp only [Text.oneLine_append, Stamp.oneLine_text, hopen, hclose, and_self]
      · exact hnothing
    · exact hnothing

theorem oneLine_labelPart (x : Layout) (colored : Bool) (l : Level) :
    OneLine (x.labelPart colored l) := by
  have hname : OneLine l.name := by cases l <;> decide
  have hset : OneLine (Style.set l) := by cases l <;> decide
  have hreset : OneLine (Style.reset l) := by cases l <;> decide
  have hend : OneLine ": " := by decide
  unfold labelPart
  split
  · split
    · simp [hname, hset, hreset, hend]
    · simp [hname, hend]
  · decide

theorem oneLine_columnPart (x : Layout) {category : String} (h : OneLine category) :
    OneLine (x.columnPart category) := by
  have hend : OneLine ": " := by decide
  unfold columnPart
  split
  · decide
  · rw [column, Text.oneLine_append, Text.oneLine_ofList, Text.padEnd, List.mem_append, not_or]
    refine ⟨⟨h, fun hm => ?_⟩, hend⟩
    exact absurd (List.eq_of_mem_replicate hm) (by decide)

/-- The line of a record is one line, if its parts that come from outside are. -/
theorem oneLine_text (x : Layout) {m : Moment} (colored : Bool) {r : Record}
    (hwall : x.wallTime = true → OneLine m.wall) (hcategory : OneLine r.category)
    (hmessage : OneLine r.message) : OneLine (x.text m colored r) := by
  simp [text, oneLine_front x hwall, oneLine_labelPart, oneLine_columnPart x hcategory, hmessage]

end Layout

end Logbook
