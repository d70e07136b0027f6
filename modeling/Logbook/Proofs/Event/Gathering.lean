/-
# What the fields of an event are gathered to

Fields are gathered one by one, and each is looked at by its name and the kind of its value: it is taken
for a part of a record, or kept as text. In the end each part is that of the last field that was taken for
it, and the other fields are kept in their order.

Key definitions: `Field.message?`, `Field.textNamed?`, `Field.isPart`, `Field.asText?`, `lastOf`.
Key theorems: `Gathered.add_eq`, `Gathered.ofFields_eq`.
-/
import Logbook.Event.Report

namespace Logbook

namespace Field

/-- The message that a field gives: the text of any value by that name, but for a count. -/
def message? : Field → Option String
  | (_, .count _) => none
  | (name, v) => if name = "message" then v.text? else none

/-- The text of a field with a given name. -/
def textNamed? (wanted : String) : Field → Option String
  | (name, .text s) => if name = wanted then some s else none
  | _ => none

/-- The count of a field with a given name. -/
def countNamed? (wanted : String) : Field → Option UInt64
  | (name, .count n) => if name = wanted then some n else none
  | _ => none

/-- Whether a field is taken for a part of a record. -/
def isPart : Field → Bool
  | (name, .text _) => ["message", "category", "severity", "file"].contains name
  | (name, .count _) => ["verbosity", "line"].contains name
  | (name, _) => name == "message"

/-- A field as text; one that was not given has none. -/
def asText? (f : Field) : Option String := f.2.text?.map fun s => " " ++ f.1 ++ "=" ++ s

/-- The text of a field that is no part of a record. -/
def remainder? (f : Field) : Option String := if f.isPart then none else f.asText?

end Field

/-- What the last of the fields gives that give anything. -/
def lastOf {α : Type} (give : Field → Option α) (fs : List Field) : Option α :=
  (fs.filterMap give).getLast?

@[simp] theorem lastOf_nil {α : Type} (give : Field → Option α) : lastOf give [] = none := rfl

theorem lastOf_cons {α : Type} (give : Field → Option α) (f : Field) (fs : List Field) :
    lastOf give (f :: fs) = (lastOf give fs).or (give f) := by
  rw [lastOf, lastOf, List.filterMap_cons]
  cases give f with
  | none => simp
  | some a =>
    rw [List.getLast?_cons]
    cases (fs.filterMap give).getLast? <;> rfl

namespace Gathered

/-- A field gives the part that it is taken for, and is kept as text if it is taken for none. -/
theorem add_eq (g : Gathered) (f : Field) :
    g.add f =
      { message := f.message?.getD g.message
        category := (f.textNamed? "category").or g.category
        severity := ((f.textNamed? "severity").map Severity.ofLabel?).getD g.severity
        verbosity := (f.countNamed? "verbosity").or g.verbosity
        file := (f.textNamed? "file").or g.file
        line := (f.countNamed? "line").or g.line
        extra := g.extra ++ f.remainder?.getD "" } := by
  obtain ⟨name, v⟩ := f
  cases v with
  | text s =>
    -- The four names that a text is looked for under exclude each other.
    simp only [add, addText]
    repeat' split
    all_goals simp [*, Field.message?, Field.textNamed?, Field.countNamed?, Field.remainder?,
      Field.isPart, Field.asText?, addExtra, FieldValue.text?, String.append_assoc]
  | count n =>
    simp only [add, addCount]
    repeat' split
    all_goals simp [*, Field.message?, Field.textNamed?, Field.countNamed?, Field.remainder?,
      Field.isPart, Field.asText?, addExtra, FieldValue.text?, String.append_assoc]
  | _ =>
    by_cases h : name = "message" <;>
      simp [h, add, addShown, Field.message?, Field.textNamed?, Field.countNamed?, Field.remainder?,
        Field.isPart, Field.asText?, addExtra, FieldValue.text?, String.append_assoc]

/-- Each part is that of the last field that was taken for it, and what is no part is kept in order. -/
theorem foldl_add_eq (fs : List Field) : ∀ g : Gathered,
    fs.foldl add g =
      { message := (lastOf Field.message? fs).getD g.message
        category := (lastOf (Field.textNamed? "category") fs).or g.category
        severity := ((lastOf (Field.textNamed? "severity") fs).map Severity.ofLabel?).getD g.severity
        verbosity := (lastOf (Field.countNamed? "verbosity") fs).or g.verbosity
        file := (lastOf (Field.textNamed? "file") fs).or g.file
        line := (lastOf (Field.countNamed? "line") fs).or g.line
        extra := g.extra ++ String.join (fs.filterMap Field.remainder?) } := by
  induction fs with
  | nil => intro g; simp
  | cons f fs ih =>
    intro g
    have hgetD {α : Type} (a b : Option α) (c : α) : a.getD (b.getD c) = (a.or b).getD c := by
      cases a <;> rfl
    rw [List.foldl_cons, ih, add_eq]
    simp only [lastOf_cons, hgetD, Option.or_assoc, Option.map_or, String.append_assoc,
      List.filterMap_cons]
    cases f.remainder? <;> simp

/-- What the fields of an event say. -/
theorem ofFields_eq (fs : List Field) :
    ofFields fs =
      { message := (lastOf Field.message? fs).getD ""
        category := lastOf (Field.textNamed? "category") fs
        severity := (lastOf (Field.textNamed? "severity") fs).bind Severity.ofLabel?
        verbosity := lastOf (Field.countNamed? "verbosity") fs
        file := lastOf (Field.textNamed? "file") fs
        line := lastOf (Field.countNamed? "line") fs
        extra := String.join (fs.filterMap Field.remainder?) } := by
  have hseverity (a : Option String) :
      (a.map Severity.ofLabel?).getD none = a.bind Severity.ofLabel? := by
    cases a <;> rfl
  rw [ofFields, foldl_add_eq]
  simp only [nothing, Option.or_none, hseverity, String.empty_append]

end Gathered

end Logbook
