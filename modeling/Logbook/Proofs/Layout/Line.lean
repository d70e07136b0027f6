/-
# Lines and their colours

A line can be made exactly if its category column can, whatever the record and the time. Colours then
change a line at one place only: the sequence of the level stands before its label and the resetting one
behind it. A layout without labels has the same lines with colours as without. The category stands in a
column of its width, filled up with blanks, right before the message.

Key definitions: `Layout.Fits`, `Layout.text`, `Layout.front`, `Layout.back`, `Layout.InColumn`,
`Layout.Answers`.
Key theorems: `Layout.line_eq_text`, `Layout.line_of_not_fits`, `Layout.text_of_severity`,
`Layout.text_of_no_severity`, `Layout.line_answers`.
-/
import Logbook.Layout

namespace Logbook

/-- No record is shown at the level that stands for nothing. -/
theorem Record.level_ne_off (r : Record) : r.level ≠ .off := by
  have hmax (l : Level) : Level.max .info l ≠ .off := by cases l <;> decide
  unfold Record.level
  split
  · decide
  · decide
  · decide
  · exact hmax _

theorem Style.set_ne_empty {l : Level} (h : l ≠ .off) : Style.set l ≠ "" := by
  cases l with
  | off => exact absurd rfl h
  | _ => decide

namespace Layout

/-- The category column of a layout can be made. -/
def Fits (x : Layout) : Prop := x.categoryWidth.toNat ≤ 65535

instance (x : Layout) : Decidable x.Fits := inferInstanceAs (Decidable (_ ≤ _))

/-- What stands before the label of the level. -/
def front (x : Layout) (m : Moment) : String := x.wallPart m ++ x.timePart m

/-- The category column of a layout that fits. -/
def columnPart (x : Layout) (category : String) : String :=
  if x.categoryWidth = 0 then "" else column x.categoryWidth.toNat category

/-- The line of a record in a layout that fits. -/
def text (x : Layout) (m : Moment) (colored : Bool) (r : Record) : String :=
  x.front m ++ x.labelPart colored r.level ++ x.columnPart r.category ++ r.message

/-- What stands after the label of the level. -/
def back (x : Layout) (r : Record) : String := ": " ++ x.columnPart r.category ++ r.message

theorem categoryPart_of_fits {x : Layout} (h : x.Fits) (category : String) :
    x.categoryPart category = .ok (x.columnPart category) := by
  have hwidest : x.categoryWidth.toNat ≤ Text.widest := h
  unfold categoryPart columnPart
  by_cases hw : x.categoryWidth = 0
  · rw [if_pos hw, if_pos hw]
  · rw [if_neg hw, if_neg hw, if_pos hwidest]

/-- A layout that fits makes a line of every record. -/
theorem line_eq_text {x : Layout} (h : x.Fits) (m : Moment) (colored : Bool) (r : Record) :
    x.line m colored r = .ok (x.text m colored r) := by
  rw [line, categoryPart_of_fits h]
  rfl

theorem categoryPart_of_not_fits {x : Layout} (h : ¬ x.Fits) (category : String) :
    x.categoryPart category = .error .tooWide := by
  have hwidest : ¬ x.categoryWidth.toNat ≤ Text.widest := h
  have hw : x.categoryWidth ≠ 0 := by
    intro hzero
    rw [hzero] at hwidest
    exact hwidest (Nat.zero_le _)
  rw [categoryPart, if_neg hw, if_neg hwidest]

/-- A layout that does not fit makes no line of any record. -/
theorem line_of_not_fits {x : Layout} (h : ¬ x.Fits) (m : Moment) (colored : Bool) (r : Record) :
    x.line m colored r = .error .tooWide := by
  rw [line, categoryPart_of_not_fits h]

/-- The line of a layout with labels, without colours and with them. -/
theorem text_of_severity {x : Layout} (h : x.severity = true) (m : Moment) (r : Record) :
    x.text m false r = x.front m ++ r.level.name ++ x.back r ∧
      x.text m true r =
        x.front m ++ Style.set r.level ++ r.level.name ++ Style.reset r.level ++ x.back r := by
  simp [text, labelPart, back, h, String.append_assoc]

/-- A layout without labels has nothing to colour. -/
theorem text_of_no_severity {x : Layout} (h : x.severity = false) (m : Moment) (r : Record) :
    x.text m true r = x.text m false r := by
  simp [text, labelPart, h]

/-! ### The column -/

/-- A line has the category of a record in a column of a width: behind what stands before it, filled up with
blanks to the width or in full where it is wider, and the message follows. At width zero the message follows
at once. -/
def InColumn (width : Nat) (before : String) (r : Record) (line : String) : Prop :=
  if width = 0 then line = before ++ r.message
  else ∃ blanks : Nat, r.category.length + blanks = max width r.category.length ∧
    line = before ++ r.category ++ String.ofList (List.replicate blanks ' ') ++ ": " ++ r.message

/-- What comes of the line of a record in a column of a width: the line up to the width of the widest column,
and an error beyond it. -/
def Answers (width : Nat) (before : String) (r : Record) : Except ColumnError String → Prop
  | .ok line => width ≤ 65535 ∧ InColumn width before r line
  | .error e => 65535 < width ∧ e = .tooWide

theorem text_inColumn (x : Layout) (m : Moment) (colored : Bool) (r : Record) :
    InColumn x.categoryWidth.toNat (x.front m ++ x.labelPart colored r.level) r (x.text m colored r) := by
  have hzero : x.categoryWidth.toNat = 0 ↔ x.categoryWidth = 0 := by
    rw [← UInt64.toNat_inj]
    rfl
  unfold InColumn text columnPart
  by_cases hw : x.categoryWidth = 0
  · rw [if_pos (hzero.mpr hw), if_pos hw, String.append_empty]
  · rw [if_neg (fun h => hw (hzero.mp h)), if_neg hw]
    refine ⟨x.categoryWidth.toNat - r.category.length, by omega, ?_⟩
    have hcolumn : column x.categoryWidth.toNat r.category = r.category ++
        String.ofList (List.replicate (x.categoryWidth.toNat - r.category.length) ' ') ++ ": " := by
      rw [column, Text.padEnd, String.ofList_append, String.ofList_toList, String.length_toList]
    rw [hcolumn]
    simp only [String.append_assoc]

/-- **A line is made exactly up to the widest column,** with the category in its column before the message. -/
theorem line_answers (x : Layout) (m : Moment) (colored : Bool) (r : Record) :
    Answers x.categoryWidth.toNat (x.front m ++ x.labelPart colored r.level) r (x.line m colored r) := by
  by_cases h : x.Fits
  · rw [line_eq_text h]
    exact ⟨h, text_inColumn x m colored r⟩
  · rw [line_of_not_fits h]
    exact ⟨Nat.lt_of_not_le h, rfl⟩

end Layout

end Logbook
