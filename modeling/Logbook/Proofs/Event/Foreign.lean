/-
# Events of other targets

An event that is no record is shown as one all the same, at the level that its own level stands for. It
goes by its target and shows its fields behind its message, but for the fields that are taken for a part
of a record: a text by the name of a category, a severity or a file and a count by the name of a verbosity
or a line are not shown as fields, on whatever target they come, and a category stands in the target's
place. Where there is no such field nothing is lost.

Key definitions: `EventLevel.shown`, `Event.headline`, `Event.OnlyMessage`.
Key theorems: `Event.record_of_foreign`, `Event.filterMap_remainder?`, `Event.foreign_shown`.
-/
import Logbook.Proofs.Event.Gathering
import Logbook.Proofs.Layout.Line

namespace Logbook

/-- The level that lines show for a level of events. -/
def EventLevel.shown : EventLevel → Level
  | .error => .error
  | .warn => .warning
  | .info => .info
  | .debug => .debug
  | .trace => .trace

namespace Event

/-- The message of an event: the last one that its fields give. -/
def headline (e : Event) : String := (lastOf Field.message? e.fields).getD ""

/-- What an event of another target is shown as. -/
theorem record_of_foreign {e : Event} (h : e.target ≠ reportTarget) :
    e.record =
      { severity := e.level.standing.1
        category := (lastOf (Field.textNamed? "category") e.fields).getD e.target
        message := e.headline ++ String.join (e.fields.filterMap Field.remainder?)
        verbosity := e.level.standing.2
        site := e.record.site } := by
  have hreport : e.isReport = false := decide_eq_false h
  simp only [record, hreport, Bool.false_eq_true, if_false, Gathered.ofFields_eq, headline]

theorem level_of_foreign {e : Event} (h : e.target ≠ reportTarget) : e.record.level = e.level.shown := by
  rw [record_of_foreign h, Record.level]
  cases e.level <;> rfl

/-- The message is the only part of a record among some fields. -/
def OnlyMessage (fs : List Field) : Prop := ∀ f ∈ fs, f.isPart = true ↔ f.1 = "message"

instance (fs : List Field) : Decidable (OnlyMessage fs) :=
  inferInstanceAs (Decidable (∀ f ∈ fs, f.isPart = true ↔ f.1 = "message"))

theorem OnlyMessage.tail {f : Field} {fs : List Field} (h : OnlyMessage (f :: fs)) : OnlyMessage fs :=
  fun g hg => h g (List.mem_cons_of_mem f hg)

/-- Where the message is the only part of a record, every other field is kept. -/
theorem filterMap_remainder? {fs : List Field} (h : OnlyMessage fs) :
    fs.filterMap Field.remainder? =
      (fs.filter fun f => f.1 ≠ "message").filterMap Field.asText? := by
  induction fs with
  | nil => rfl
  | cons f fs ih =>
    have hpart := h f List.mem_cons_self
    rw [List.filterMap_cons, List.filter_cons, ih h.tail]
    by_cases hname : f.1 = "message"
    · simp [Field.remainder?, hpart.mpr hname, hname]
    · have hkept : f.isPart = false := by simpa [hname] using hpart
      simp [Field.remainder?, hkept, hname, List.filterMap_cons]

theorem lastOf_category_eq_none {fs : List Field} (h : OnlyMessage fs) :
    lastOf (Field.textNamed? "category") fs = none := by
  rw [lastOf, List.getLast?_eq_none_iff, List.filterMap_eq_nil_iff]
  rintro ⟨name, v⟩ hf
  cases v with
  | text s =>
    refine if_neg fun hname : name = "category" => ?_
    subst hname
    exact absurd ((h _ hf).mp rfl) (by decide : "category" ≠ "message")
  | _ => rfl

/-- **Events of other targets are shown with their target and their fields, as far as no field is taken
for a part of a record.** An event that is no record is shown with the severity, the verbosity and the
level that its own level stands for. Its category is its target, unless a text by the name of a category
stands among its fields, which is then shown instead. Its message is followed by its other fields in
their order, each as its name and its value, but for the texts by the name of a category, a severity or a
file and the counts by the name of a verbosity or a line. So an event whose only part of a record is its
message is shown with its target, and with all its fields. The line is made of these. -/
theorem foreign_shown (e : Event) (h : e.target ≠ reportTarget) :
    (e.record.severity = e.level.standing.1 ∧ e.record.verbosity = e.level.standing.2) ∧
      e.record.category = (lastOf (Field.textNamed? "category") e.fields).getD e.target ∧
      e.record.message = e.headline ++ String.join (e.fields.filterMap Field.remainder?) ∧
      (OnlyMessage e.fields →
        e.record.category = e.target ∧
          e.record.message = e.headline ++
            String.join ((e.fields.filter fun f => f.1 ≠ "message").filterMap Field.asText?)) ∧
      ∀ (x : Layout) (m : Moment) (ansi : Bool), x.Fits →
        e.lineOf x m ansi = .ok (x.front m ++ x.labelPart (x.colored && ansi) e.level.shown ++
          x.columnPart e.record.category ++ e.record.message ++ "\n") := by
  have hrecord := record_of_foreign h
  have hcategory := congrArg Record.category hrecord
  have hmessage := congrArg Record.message hrecord
  refine ⟨⟨congrArg Record.severity hrecord, congrArg Record.verbosity hrecord⟩, hcategory, hmessage,
    fun hfields => ?_, fun x m ansi hfits => ?_⟩
  · rw [hcategory, hmessage, lastOf_category_eq_none hfields, filterMap_remainder? hfields]
    exact ⟨rfl, rfl⟩
  · rw [lineOf, Layout.line_eq_text hfits, Layout.text, level_of_foreign h]
    rfl

/-- Values of several kinds, one of them by the name of a category and one that was declared and not
given. -/
theorem foreign_shown_with_shown_values :
    let e : Event := ⟨"bus", .debug, [("addr", .count 16), ("message", .shown "retry"),
      ("category", .shown "slow"), ("depth", .integer (-3)), ("owner", .missing), ("ok", .flag true)],
      some "bus.rs", some 9⟩
    e.target ≠ reportTarget ∧ OnlyMessage e.fields ∧
      e.lineOf .plain ⟨"", none, .simTime⟩ true =
        .ok ("DEBUG: bus                     : retry addr=16 category=slow depth=-3 ok=true" ++ "\n") := by
  intro e
  have htarget : e.target ≠ reportTarget := by decide
  have hfields : OnlyMessage e.fields := by decide
  obtain ⟨-, -, -, hshown, hline⟩ := foreign_shown e htarget
  obtain ⟨hcategory, hmessage⟩ := hshown hfields
  refine ⟨htarget, hfields, ?_⟩
  rw [hline .plain _ _ (by decide), hcategory, hmessage]
  exact congrArg Except.ok (by decide +kernel)

/-- A text by the name of a category stands in the target's place, and a count by the name of a line is
gone. -/
theorem category_field_hides_target :
    let e : Event := ⟨"bus", .warn, [("message", .text "retry"), ("category", .text "dma"),
      ("line", .count 7), ("addr", .count 16)], none, none⟩
    e.target ≠ reportTarget ∧ e.record.category = "dma" ∧ e.record.message = "retry addr=16" ∧
      ¬ (e.record.category = e.target ∧
        e.record.message = "retry" ++ " category=dma" ++ " line=7" ++ " addr=16") := by
  decide +kernel

end Event

end Logbook
