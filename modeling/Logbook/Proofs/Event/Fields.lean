/-
# The order of the fields of a record's event

What is shown of an event on the target of records is read off the last field that was taken for each
part. Where the parts have different names there is only one such field for each, so the order of the
fields makes no difference; and a field that is taken for no part makes none anywhere. A severity of an
unknown label counts as the last one all the same, so the level of the event decides then, and so it
does about a verbosity that is too large.

Key definitions: `Field.Reads`.
Key theorems: `lastOf_of_filter_eq`, `lastOf_of_perm`, `Event.record_of_report`,
`Event.report_shown_by_last_parts`.
-/
import Logbook.Proofs.Event.Gathering

namespace Logbook

namespace Field

/-- What is read off the fields of one name that are taken for a part of a record, and off no others. -/
def Reads {α : Type} (name : String) (give : Field → Option α) : Prop :=
  ∀ f a, give f = some a → f.1 = name ∧ f.isPart = true

theorem reads_message? : Reads "message" message? := by
  rintro ⟨name, v⟩ a h
  cases v with
  | count n => exact absurd h (by simp [message?])
  | _ =>
    simp only [message?] at h
    split at h
    · next hname =>
      subst hname
      exact ⟨rfl, rfl⟩
    · exact absurd h (by simp)

theorem reads_textNamed? (wanted : String) (hw : isPart (wanted, .text "") = true) :
    Reads wanted (textNamed? wanted) := by
  rintro ⟨name, v⟩ a h
  cases v with
  | text s =>
    simp only [textNamed?] at h
    split at h
    · next hname => exact ⟨hname, hname ▸ hw⟩
    · exact absurd h (by simp)
  | _ => exact absurd h (by simp [textNamed?])

theorem reads_countNamed? (wanted : String) (hw : isPart (wanted, .count 0) = true) :
    Reads wanted (countNamed? wanted) := by
  rintro ⟨name, v⟩ a h
  cases v with
  | count n =>
    simp only [countNamed?] at h
    split at h
    · next hname => exact ⟨hname, hname ▸ hw⟩
    · exact absurd h (by simp)
  | _ => exact absurd h (by simp [countNamed?])

end Field

section Readers

variable {α : Type} {name : String} {give : Field → Option α}

/-- A field that is no part of a record is not read. -/
theorem filterMap_filter_isPart (hgive : Field.Reads name give) (fs : List Field) :
    (fs.filter Field.isPart).filterMap give = fs.filterMap give := by
  induction fs with
  | nil => rfl
  | cons f fs ih =>
    rw [List.filter_cons]
    split
    · rw [List.filterMap_cons, List.filterMap_cons, ih]
    · next hpart =>
      have hnone : give f = none := by
        cases hf : give f with
        | none => rfl
        | some a => exact absurd (hgive f a hf).2 hpart
      rw [List.filterMap_cons, hnone, ih]

theorem lastOf_of_filter_eq (hgive : Field.Reads name give) {fs gs : List Field}
    (h : fs.filter Field.isPart = gs.filter Field.isPart) : lastOf give fs = lastOf give gs := by
  rw [lastOf, lastOf, ← filterMap_filter_isPart hgive fs, ← filterMap_filter_isPart hgive gs, h]

/-- Of fields with different names at most one is read. -/
theorem length_filterMap_le_one (hgive : Field.Reads name give) {fs : List Field}
    (hfs : (fs.map Prod.fst).Nodup) : (fs.filterMap give).length ≤ 1 := by
  induction fs with
  | nil => exact Nat.zero_le 1
  | cons f fs ih =>
    rw [List.map_cons, List.nodup_cons] at hfs
    rw [List.filterMap_cons]
    cases hf : give f with
    | none => exact ih hfs.2
    | some a =>
      -- the name is taken, so nothing else is read
      have hrest : fs.filterMap give = [] := by
        refine List.filterMap_eq_nil_iff.mpr fun g hg => ?_
        cases hsome : give g with
        | none => rfl
        | some b =>
          have hname : g.1 = f.1 := (hgive g b hsome).1.trans (hgive f a hf).1.symm
          exact absurd (hname ▸ List.mem_map_of_mem hg) hfs.1
      rw [hrest]
      exact Nat.le_refl 1

/-- Lists of at most one entry have no order. -/
theorem eq_of_perm_of_length_le_one {as bs : List α} (h : as.Perm bs) (has : as.length ≤ 1) : as = bs := by
  match as, has with
  | [], _ => exact h.nil_eq
  | [a], _ => exact List.singleton_perm.mp h

theorem lastOf_of_perm (hgive : Field.Reads name give) {fs gs : List Field} (h : fs.Perm gs)
    (hfs : (fs.map Prod.fst).Nodup) : lastOf give fs = lastOf give gs := by
  have hread : fs.filterMap give = gs.filterMap give :=
    eq_of_perm_of_length_le_one (h.filterMap give) (length_filterMap_le_one hgive hfs)
  rw [lastOf, lastOf, hread]

end Readers

namespace Event

/-- What an event on the target of records is shown as. -/
theorem record_of_report {e : Event} (h : e.target = reportTarget) :
    e.record =
      { severity :=
          ((lastOf (Field.textNamed? "severity") e.fields).bind Severity.ofLabel?).getD e.level.standing.1
        category := (lastOf (Field.textNamed? "category") e.fields).getD reportTarget
        message := (lastOf Field.message? e.fields).getD ""
        verbosity :=
          (((lastOf (Field.countNamed? "verbosity") e.fields).bind narrow?).map Verbosity.mk).getD
            e.level.standing.2
        site :=
          { file := ((lastOf (Field.textNamed? "file") e.fields).or e.file).getD ""
            line := (((lastOf (Field.countNamed? "line") e.fields).bind narrow?).or e.line).getD 0 } } := by
  have hreport : e.isReport = true := decide_eq_true h
  have horElse {α : Type} (a b : Option α) : (a.orElse fun _ => b) = a.or b := by
    cases a <;> rfl
  simp only [record, hreport, if_true, Gathered.ofFields_eq, h, horElse]

/-- Fields of which the same is read are shown as the same record. -/
theorem record_congr {e : Event} (h : e.target = reportTarget) {fs gs : List Field}
    (hread : ∀ {α : Type} {name : String} {give : Field → Option α}, Field.Reads name give →
      lastOf give fs = lastOf give gs) :
    { e with fields := fs }.record = { e with fields := gs }.record := by
  rw [record_of_report (e := { e with fields := fs }) h,
    record_of_report (e := { e with fields := gs }) h]
  simp only [hread Field.reads_message?, hread (Field.reads_textNamed? "severity" rfl),
    hread (Field.reads_textNamed? "category" rfl),
    hread (Field.reads_textNamed? "file" rfl),
    hread (Field.reads_countNamed? "verbosity" rfl),
    hread (Field.reads_countNamed? "line" rfl)]

/-- **A record's event is shown by the last field of each part.** Take an event on the target of records,
with any level, in any layout, at any moment and with or without colours. Where its fields have different
names, their order makes no difference to its line. Fields that are taken for no part of a record make none
either, wherever they stand and whatever names repeat. What is shown is the record whose parts are those of
the last field that was taken for each: the message is the last text or shown value by that name, a severity
of an unknown label and a verbosity that does not fit leave it to the level of the event, and a line that does
not fit leaves it to the call site. -/
theorem report_shown_by_last_parts (e : Event) (h : e.target = reportTarget) :
    (∀ fs gs : List Field, fs.Perm gs → (fs.map Prod.fst).Nodup → ∀ x m ansi,
        lineOf x m ansi { e with fields := fs } = lineOf x m ansi { e with fields := gs }) ∧
      (∀ fs gs : List Field, fs.filter Field.isPart = gs.filter Field.isPart → ∀ x m ansi,
        lineOf x m ansi { e with fields := fs } = lineOf x m ansi { e with fields := gs }) ∧
      e.record =
        { severity :=
            ((lastOf (Field.textNamed? "severity") e.fields).bind Severity.ofLabel?).getD
              e.level.standing.1
          category := (lastOf (Field.textNamed? "category") e.fields).getD reportTarget
          message := (lastOf Field.message? e.fields).getD ""
          verbosity :=
            (((lastOf (Field.countNamed? "verbosity") e.fields).bind narrow?).map Verbosity.mk).getD
              e.level.standing.2
          site :=
            { file := ((lastOf (Field.textNamed? "file") e.fields).or e.file).getD ""
              line :=
                (((lastOf (Field.countNamed? "line") e.fields).bind narrow?).or e.line).getD 0 } } ∧
      (∀ label, lastOf (Field.textNamed? "severity") e.fields = some label →
        (∀ s : Severity, s.label ≠ label) → e.record.severity = e.level.standing.1) ∧
      ∀ n, lastOf (Field.countNamed? "verbosity") e.fields = some n → UInt32.size ≤ n.toNat →
        e.record.verbosity = e.level.standing.2 := by
  have hrecord := record_of_report h
  refine ⟨fun fs gs hperm hfs x m ansi => ?_, fun fs gs hparts x m ansi => ?_, hrecord,
    fun label hlast hunknown => ?_, fun n hlast hlarge => ?_⟩
  · rw [lineOf, lineOf, record_congr h fun hgive => lastOf_of_perm hgive hperm hfs]
  · rw [lineOf, lineOf, record_congr h fun hgive => lastOf_of_filter_eq hgive hparts]
  · have hnone : Severity.ofLabel? label = none :=
      List.find?_eq_none.mpr fun s _ => by simpa using hunknown s
    rw [hrecord, hlast]
    simp [hnone]
  · have hnone : narrow? n = none := if_neg (Nat.not_lt.mpr hlarge)
    rw [hrecord, hlast]
    simp [hnone]

/-- The fields of a record in another order and with a foreign field between them, and fields that repeat: an
unknown label after a known one, and a verbosity that does not fit after one that does. -/
theorem report_shown_by_last_parts_of_mixed_fields :
    let sent : List Field := [("message", .shown "refresh"), ("category", .text "top.mem"),
      ("severity", .text "ERROR"), ("verbosity", .count 200)]
    let mixed : List Field := [("verbosity", .count 200), ("severity", .text "ERROR"),
      ("message", .shown "refresh"), ("category", .text "top.mem")]
    let padded : List Field := [("verbosity", .count 200), ("message", .count 7),
      ("severity", .text "ERROR"), ("message", .shown "refresh"), ("category", .text "top.mem")]
    let e : Event := ⟨reportTarget, .warn, [("severity", .text "FATAL"), ("message", .text "old"),
      ("severity", .text "fatal"), ("verbosity", .count 400), ("message", .shown "new"),
      ("verbosity", .count 4294967296), ("category", .text "bus")], none, none⟩
    e.target = reportTarget ∧ sent.Perm mixed ∧ (sent.map Prod.fst).Nodup ∧
      mixed.filter Field.isPart = padded.filter Field.isPart ∧
      (∀ x m ansi, lineOf x m ansi { e with fields := sent } =
        lineOf x m ansi { e with fields := padded }) ∧
      (e.record.message = "new" ∧ e.record.category = "bus") ∧
      e.record.severity = .warning ∧ e.record.verbosity = .medium := by
  intro sent mixed padded e
  have htarget : e.target = reportTarget := rfl
  have hperm : sent.Perm mixed := by decide
  have hnames : (sent.map Prod.fst).Nodup := by decide
  have hparts : mixed.filter Field.isPart = padded.filter Field.isPart := by decide
  obtain ⟨horder, hforeign, hrecord, hseverity, hverbosity⟩ := report_shown_by_last_parts e htarget
  refine ⟨htarget, hperm, hnames, hparts, fun x m ansi => ?_, ?_, ?_, ?_⟩
  · exact (horder sent mixed hperm hnames x m ansi).trans (hforeign mixed padded hparts x m ansi)
  · rw [hrecord]
    exact ⟨rfl, rfl⟩
  · exact hseverity "fatal" rfl (by intro s; cases s <;> decide)
  · exact hverbosity 4294967296 rfl (by decide)

end Event

end Logbook
