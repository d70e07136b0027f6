/-
# What can go wrong with a line

A record on its way raises one message at most: that of a category column that is too wide, from the
formatter that is to make its line. Which formatter that is, if any, is told beforehand by the sink in force,
the registries and whoever takes events (`formatterFor`), and the message is raised exactly if its column
cannot be made (`deliver_raised_iff`). What the line would say, when, and to which device has no part in it.

Widths are not looked at when settings are given, and the formatter of a facility that is set up has that of
its settings, so there are settings of every kind whose lines cannot be made (`only_wide_columns_raise`,
`wider_than_widest_raises`). Where every column in a facility can be made, a whole run of reports raises
nothing, since no report changes a layout (`attempts_takeAt`).

Key definitions: `Facility.formatterFor`, `Formatter.Follows`, `Facility.AllLegible`, `Facility.takeAt`,
`Facility.OnlyWideRaise`.
Key theorems: `Facility.deliver_raised_iff`, `Facility.install_formatter`, `Facility.attempts_takeAt`,
`Facility.only_wide_columns_raise`.
-/
import Logbook.Facility.Startup
import Logbook.Proofs.Facility.Legible
import Logbook.Proofs.Facility.Paths
import Logbook.Proofs.Settings.Ways
import Logbook.Proofs.Stamp.Words

namespace Logbook

theorem Event.lineOf_of_not_fits {x : Layout} (h : ¬ x.Fits) (m : Moment) (ansi : Bool) (e : Event) :
    e.lineOf x m ansi = .error .tooWide := by
  rw [Event.lineOf, Layout.line_of_not_fits h]
  rfl

namespace Formatter

/-- A formatter has the layout of settings; its colours, its time source and its registry are its own. -/
def Follows (f : Formatter) (s : Settings) : Prop :=
  f.layout = { Layout.ofSettings s with colored := f.layout.colored }

instance (f : Formatter) (s : Settings) : Decidable (f.Follows s) := inferInstanceAs (Decidable (_ = _))

theorem Follows.categoryWidth {f : Formatter} {s : Settings} (h : f.Follows s) :
    f.layout.categoryWidth = s.categoryWidth := by
  rw [h]
  rfl

theorem Follows.not_fits_iff {f : Formatter} {s : Settings} (h : f.Follows s) :
    ¬ f.layout.Fits ↔ 65535 < s.categoryWidth.toNat := by
  rw [Layout.Fits, h.categoryWidth, Nat.not_le]

end Formatter

namespace Facility

/-! ### Who makes the line -/

/-- The formatter that shows an event, if one does. -/
def formatterOf (e : Event) (x : Facility) : Option Formatter :=
  match x.subscriber with
  | .nobody | .recorder => none
  | .backend b => if Directive.carries b.directives e then some b.formatter else none

/-- The formatter that makes the line of a record for the given sink or for the one in force, if a line is
made of it. -/
def formatterFor (given : Option (Ref Sink)) (r : Record) (x : Facility) : Option Formatter :=
  match x.destination x.scopes given with
  | none => x.formatterOf (.ofRecord r)
  | some s =>
    match x.sinks.get s with
    | .memory _ => none
    | .lines k => if (x.registryOf k.registry).admits r then some k.formatter else none
    | .events k => if x.accepts k r then x.formatterOf (.ofRecord r) else none

theorem formatter?_of_formatterOf {e : Event} {x : Facility} {f : Formatter}
    (h : x.formatterOf e = some f) : x.subscriber.formatter? = some f := by
  unfold formatterOf at h
  cases hk : x.subscriber with
  | nobody => simp [hk] at h
  | recorder => simp [hk] at h
  | backend b =>
    simp only [hk] at h
    exact (Option.ite_none_right_eq_some.mp h).2

/-- A message is that of a formatter whose column cannot be made. -/
def ColumnMessage (f : Option Formatter) (m : String) : Prop :=
  m = ColumnError.tooWide.message ∧ ∃ g ∈ f, ¬ g.layout.Fits

theorem not_columnMessage_none (m : String) : ¬ ColumnMessage none m := by
  rintro ⟨-, g, hg, -⟩
  exact absurd hg (by simp)

theorem columnMessage_some {f : Formatter} {m : String} :
    ColumnMessage (some f) m ↔ m = ColumnError.tooWide.message ∧ ¬ f.layout.Fits := by
  simp [ColumnMessage]

/-! ### What is raised -/

/-- Showing an event raises the message of the column, and nothing else. -/
theorem display_raised_iff (b : Backend) (e : Event) (x : Facility) (m : String) :
    (display b e x).1 = .raised m ↔ ColumnMessage (some b.formatter) m := by
  rw [columnMessage_some]
  by_cases hfits : b.formatter.layout.Fits
  · refine iff_of_false ?_ fun h => h.2 hfits
    simp only [display, Event.lineOf_of_fits hfits]
    split <;> simp
  · have hraised : (display b e x).1 = .raised ColumnError.tooWide.message := by
      simp only [display, Event.lineOf_of_not_fits hfits]
    rw [hraised, Outcome.raised.injEq]
    exact ⟨fun h => ⟨h.symm, hfits⟩, fun h => h.1.symm⟩

theorem carry_raised_iff (e : Event) (x : Facility) (m : String) :
    (carry e x).1 = .raised m ↔ ColumnMessage (x.formatterOf e) m := by
  unfold carry formatterOf
  cases x.subscriber with
  | nobody => exact iff_of_false (by simp) (not_columnMessage_none m)
  | recorder => exact iff_of_false (by simp) (not_columnMessage_none m)
  | backend b =>
    dsimp only
    split
    · exact display_raised_iff b e x m
    · exact iff_of_false (by simp) (not_columnMessage_none m)

theorem writeLine_raised_iff (s : Ref Sink) (k : LineSink) (r : Record) (x : Facility) (m : String) :
    (writeLine s k r x).1 = .raised m ↔
      ColumnMessage (if (x.registryOf k.registry).admits r then some k.formatter else none) m := by
  by_cases hadmits : (x.registryOf k.registry).admits r = true
  · rw [if_pos hadmits, columnMessage_some]
    by_cases hfits : k.formatter.layout.Fits
    · obtain ⟨t, ht⟩ := lineReport_of_fits Buffer.device (x.registryOf k.registry) hfits
        (x.moment k.formatter) r k.tally
      have hdone : (writeLine s k r x).1 = .done () := by simp only [writeLine, ht]
      exact iff_of_false (by simp [hdone]) fun h => h.2 hfits
    · have hraised : (writeLine s k r x).1 = .raised ColumnError.tooWide.message := by
        simp only [writeLine, lineReport, hadmits, if_true, Layout.render, Layout.line_of_not_fits hfits]
      rw [hraised, Outcome.raised.injEq]
      exact ⟨fun h => ⟨h.symm, hfits⟩, fun h => h.1.symm⟩
  · rw [if_neg hadmits]
    have hdone : (writeLine s k r x).1 = .done () := by
      simp only [writeLine, lineReport, if_neg hadmits]
    exact iff_of_false (by simp [hdone]) (not_columnMessage_none m)

/-- The last word of an event sink raises nothing. -/
theorem conclude_ne_raised (s : Ref Sink) (k : EventSink) (r : Record) (x : Facility) (m : String) :
    (conclude s k r x).1 ≠ .raised m := by
  unfold conclude
  split
  · rw [Act.modify_bind]
    split <;> simp [Act.abort]
  · simp

theorem pass_raised_iff (s : Ref Sink) (k : EventSink) (r : Record) (x : Facility) (m : String) :
    (pass s k r x).1 = .raised m ↔
      ColumnMessage (if x.accepts k r then x.formatterOf (.ofRecord r) else none) m := by
  rw [pass_run]
  by_cases haccepts : x.accepts k r = true
  · -- what carrying raises is raised at once, and there is nothing behind it that raises
    rw [if_pos haccepts, if_pos haccepts, ← carry_raised_iff, Act.bind_run]
    rcases carry (.ofRecord r) x with ⟨_ | _ | _, y⟩
    · exact iff_of_false (conclude_ne_raised s k r y m) (by simp)
    · exact Iff.rfl
    · exact Iff.rfl
  · rw [if_neg haccepts, if_neg haccepts]
    exact iff_of_false (conclude_ne_raised s k r x m) (not_columnMessage_none m)

/-- **A record on its way raises the message of a column that is too wide, and nothing else,** exactly if the
formatter that is to make its line has such a column. -/
theorem deliver_raised_iff (given : Option (Ref Sink)) (r : Record) (x : Facility) (m : String) :
    (deliver given r x).1 = .raised m ↔ ColumnMessage (x.formatterFor given r) m := by
  rw [deliver_eq_post, post, formatterFor]
  cases x.destination x.scopes given with
  | none => exact carry_raised_iff (.ofRecord r) x m
  | some s =>
    simp only [report]
    cases x.sinks.get s with
    | memory records => exact iff_of_false (by simp) (not_columnMessage_none m)
    | lines k => exact writeLine_raised_iff s k r x m
    | events k => exact pass_raised_iff s k r x m

/-! ### Whole runs -/

/-- Every sink, and whoever takes events, can make its lines. -/
def AllLegible (x : Facility) : Prop := x.subscriber.Legible ∧ ∀ s, (x.sinks.get s).Legible

theorem AllLegible.fits {x : Facility} (hx : x.AllLegible) {given : Option (Ref Sink)} {r : Record}
    {f : Formatter} (hf : x.formatterFor given r = some f) : f.layout.Fits := by
  have hshown (h : x.formatterOf (.ofRecord r) = some f) : f.layout.Fits :=
    Subscriber.legible_iff.mp hx.1 f (formatter?_of_formatterOf h)
  unfold formatterFor at hf
  cases hd : x.destination x.scopes given with
  | none => exact hshown (by simpa [hd] using hf)
  | some s =>
    have hlegible := hx.2 s
    cases hs : x.sinks.get s with
    | memory records => simp [hd, hs] at hf
    | lines k =>
      simp only [hd, hs] at hf
      obtain rfl : k.formatter = f := by simpa using (Option.ite_none_right_eq_some.mp hf).2
      rw [hs] at hlegible
      exact hlegible
    | events k =>
      simp only [hd, hs] at hf
      exact hshown (Option.ite_none_right_eq_some.mp hf).2

theorem AllLegible.of_sinks {x y : Facility} (hx : x.AllLegible) (hsubscriber : y.subscriber.Legible)
    (hsinks : y.sinks = x.sinks) : y.AllLegible := by
  refine ⟨hsubscriber, ?_⟩
  rw [hsinks]
  exact hx.2

/-- Another legible sink in the place of one makes no difference. -/
theorem AllLegible.of_put {x y : Facility} {s : Ref Sink} {k : Sink} (hx : x.AllLegible) (hk : k.Legible)
    (hsubscriber : y.subscriber = x.subscriber) (hsinks : y.sinks = x.sinks.put s k) : y.AllLegible := by
  refine ⟨hsubscriber ▸ hx.1, fun t => ?_⟩
  rw [hsinks]
  by_cases ht : s = t
  · subst ht
    rcases Table.get_put_cases x.sinks s k with h | h
    · rw [h]; exact hk
    · rw [h]; exact hx.2 s
  · rw [Table.get_put_of_ne _ ht]
    exact hx.2 t

theorem carry_allLegible (e : Event) {x : Facility} (hx : x.AllLegible) : (carry e x).2.AllLegible :=
  hx.of_sinks (carry_legible e hx.1) (carry_sinks e x)

theorem runHook_allLegible (s : Ref Sink) (k : EventSink) {x : Facility} (hx : x.AllLegible) :
    (x.runHook s k).AllLegible := by
  unfold runHook
  split
  · exact hx.of_put (k := .events { k with calls := k.calls + 1 }) trivial rfl rfl
  · exact hx.of_sinks hx.1 rfl
  · exact hx

/-- No report changes a layout. -/
theorem deliver_allLegible (given : Option (Ref Sink)) (r : Record) {x : Facility} (hx : x.AllLegible) :
    (deliver given r x).2.AllLegible := by
  rw [deliver_eq_post, post]
  cases x.destination x.scopes given with
  | none => exact carry_allLegible (.ofRecord r) hx
  | some s =>
    have hlegible := hx.2 s
    simp only [report]
    cases hs : x.sinks.get s with
    | memory records => exact hx.of_put (k := .memory (records.push r)) trivial rfl rfl
    | lines k =>
      rw [hs] at hlegible
      simp only [writeLine]
      split
      · next t _ =>
        exact hx.of_put (k := .lines { k with tally := t }) hlegible (settleLines_subscriber s k t x)
          (settleLines_sinks s k t x)
      · exact hx
    | events k =>
      exact pass_preserves (fun e _ hy => carry_allLegible e hy) (fun _ hy => runHook_allLegible s k hy) r hx

/-- Takes a turn in which a record is reported to a sink that it is given, or to the one in force. -/
def takeAt : Option (Ref Sink) × Turn → Act Facility Unit
  | (given, .report r) => deliver given r
  | (_, t) => Act.modify (turned t)

theorem turned_allLegible (t : Turn) {x : Facility} (hx : x.AllLegible) : (turned t x).AllLegible := by
  obtain ⟨hsinks, hsubscriber, -⟩ := turned_ends t x
  exact hx.of_sinks (hsubscriber ▸ hx.1) hsinks

theorem takeAt_allLegible (t : Option (Ref Sink) × Turn) {x : Facility} (hx : x.AllLegible) :
    (takeAt t x).2.AllLegible ∧ ∀ m, (takeAt t x).1 ≠ .raised m := by
  obtain ⟨given, t⟩ := t
  cases t with
  | report r =>
    refine ⟨deliver_allLegible given r hx, fun m hm => ?_⟩
    obtain ⟨-, f, hf, hnot⟩ := (deliver_raised_iff given r x m).mp hm
    exact hnot (hx.fits hf)
  | registry _ _ | clock _ _ | wall _ =>
    exact ⟨turned_allLegible _ hx, fun m => by simp [takeAt, Act.modify]⟩

/-- Where every column can be made, a run of reports raises nothing: each turn of it ends well, unless a fatal
record stops the process. -/
theorem attempts_takeAt : ∀ (ts : List (Option (Ref Sink) × Turn)) {x : Facility}, x.AllLegible →
    (Act.attempts takeAt ts x).1 = .done (ts.map fun _ => .ok ()) ∨ (Act.attempts takeAt ts x).1 = .aborted
  | [], _, _ => .inl rfl
  | t :: ts, x, hx => by
    -- the next turn finds every column to be made again, so it cannot raise either
    obtain ⟨hlegible, hraises⟩ := takeAt_allLegible t hx
    rw [Act.attempts_cons]
    generalize takeAt t x = r at hlegible hraises ⊢
    rcases r with ⟨_ | m | _, y⟩
    · rcases attempts_takeAt ts hlegible with hdone | haborted
      · exact .inl (by simp [Act.map, hdone, Outcome.map])
      · exact .inr (by simp [Act.map, haborted, Outcome.map])
    · exact absurd rfl (hraises m)
    · exact .inr rfl

/-! ### Setting up -/

theorem startupRemarks_formatter (s : Settings) :
    Act.Keeps (fun x : Facility => x.subscriber.formatter?) (startupRemarks s) :=
  .bind (carry_formatter _) fun _ => .ite (carry_formatter _) (.pure _)

/-- A facility that is set up shows events in the layout of its settings. -/
theorem install_formatter {s : Settings} {clock : Option (Ref Clock)} {x y : Facility}
    (h : install s clock x = (.done (.ok ()), y)) :
    ∃ f, y.subscriber.formatter? = some f ∧ f.layout = .ofSettings s := by
  unfold install at h
  split at h
  · simp at h
  · split at h
    · simp at h
    · dsimp only at h
      split at h
      · simp at h
      · simp at h
      · split at h
        · obtain rfl := (Prod.mk.inj h).2
          exact ⟨_, startupRemarks_formatter s _, rfl⟩
        · simp at h

theorem formatterOf_follows {s : Settings} {clock : Option (Ref Clock)} {x y : Facility}
    (h : install s clock x = (.done (.ok ()), y)) {e : Event} {f : Formatter}
    (hf : y.formatterOf e = some f) : f.Follows s := by
  obtain ⟨g, hg, hlayout⟩ := install_formatter h
  obtain rfl : g = f := Option.some.inj (hg.symm.trans (formatter?_of_formatterOf hf))
  rw [Formatter.Follows, hlayout]

/-! ### Drafts -/

/-- A draft raises what its record raises on its way. -/
theorem close_raised_iff (d : Draft) (x : Facility) (m : String) :
    (close d x).1 = .raised m ↔ ColumnMessage (x.formatterFor d.sink d.record) m :=
  deliver_raised_iff d.sink d.record x m

/-- A draft that raises while a message is on its way already stops the process. -/
theorem ensure_close_of_raised {d : Draft} {x : Facility} {m : String} (h : (close d x).1 = .raised m)
    (e : String) : (Act.ensure (Act.raise e : Act Facility Unit) (close d) x).1 = .aborted := by
  rw [Act.ensure_run]
  simp only [Act.raise, h, Outcome.afterCleanup]

/-- What can go wrong with the lines of a formatter `f` that has the layout of settings `s`: nothing, but for
the width of their category column. -/
structure OnlyWideRaise (s : Settings) (f : Formatter) : Prop where
  /-- Every width is taken: each word is the width of the category column in settings that are given with
  setters, in a document, or among arguments. -/
  given : ∀ (way : Settings.Way) (w : UInt64), ∃ t : Settings, t.GivenBy way ∧ t.categoryWidth = w
  /-- A facility that is set up with the settings shows its events with a formatter in their layout. -/
  installed : ∀ (clock : Option (Ref Clock)) (x y : Facility), install s clock x = (.done (.ok ()), y) →
    ∀ e g, y.formatterOf e = some g → g.Follows s
  /-- Whatever time it is, its stamp can be worked out. -/
  stamped : ∀ (now : Duration) (period : Option Duration),
    Stamp.work? now period = some (.of now.nanoseconds (Stamp.displayed period))
  /-- Up to a width of 65535 the formatter makes the line of every record, in which the category stands before
  the message in a column of that width, filled up with blanks or in full, and at width zero the message stands
  alone; beyond that it makes no line. -/
  rendered : ∀ (m : Moment) (r : Record), Layout.Answers s.categoryWidth.toNat
    (f.layout.front m ++ f.layout.labelPart f.layout.colored r.level) r (f.layout.render m r)
  /-- So it is with and without colours. -/
  written : ∀ (m : Moment) (colored : Bool) (r : Record), Layout.Answers s.categoryWidth.toNat
    (f.layout.front m ++ f.layout.labelPart colored r.level) r (f.layout.line m colored r)
  /-- A draft whose line the formatter is to make raises, when it is closed, exactly beyond that width. -/
  raises : ∀ (x : Facility) (d : Draft), x.formatterFor d.sink d.record = some f →
    ∀ m, (close d x).1 = .raised m ↔
      65535 < s.categoryWidth.toNat ∧ m = "Formatting argument out of range"
  /-- If another message is on its way then, the draft stops the process. -/
  stops : ∀ (x : Facility) (d : Draft), x.formatterFor d.sink d.record = some f →
    65535 < s.categoryWidth.toNat →
    ∀ e, (Act.ensure (Act.raise e : Act Facility Unit) (close d) x).1 = .aborted
  /-- A draft that no line is made of raises nothing. -/
  spares : ∀ (x : Facility) (d : Draft), x.formatterFor d.sink d.record = none →
    ∀ m, (close d x).1 ≠ .raised m
  /-- Where every column in a facility can be made, a run of reports, with changes of registries, clocks and
  the time of day among them, raises nothing. -/
  runs : ∀ (x : Facility) (ts : List (Option (Ref Sink) × Turn)), x.AllLegible →
    (Act.attempts takeAt ts x).1 = .done (ts.map fun _ => .ok ()) ∨ (Act.attempts takeAt ts x).1 = .aborted

/-- **Only columns that are too wide raise anything, and every width is taken,** whatever the settings are and
whichever formatter has their layout. -/
theorem only_wide_columns_raise (s : Settings) (f : Formatter) (hf : f.Follows s) : OnlyWideRaise s f := by
  have hline (m : Moment) (colored : Bool) (r : Record) : Layout.Answers s.categoryWidth.toNat
      (f.layout.front m ++ f.layout.labelPart colored r.level) r (f.layout.line m colored r) := by
    rw [← hf.categoryWidth]
    exact f.layout.line_answers m colored r
  have hraises {x : Facility} {d : Draft} (hx : x.formatterFor d.sink d.record = some f) (m : String) :
      (close d x).1 = .raised m ↔
        65535 < s.categoryWidth.toNat ∧ m = "Formatting argument out of range" := by
    rw [close_raised_iff, hx, columnMessage_some, hf.not_fits_iff, and_comm]
    rfl
  exact
    { given := Settings.exists_givenBy
      installed := fun _ _ _ h _ _ hg => formatterOf_follows h hg
      stamped := Stamp.work?_eq
      rendered := fun m r => hline m f.layout.colored r
      written := hline
      raises := fun _ _ => hraises
      stops := fun _ _ hx hwide => ensure_close_of_raised ((hraises hx _).mpr ⟨hwide, rfl⟩)
      spares := fun x d hx m hm => by
        rw [close_raised_iff, hx] at hm
        exact not_columnMessage_none m hm
      runs := fun _ ts => attempts_takeAt ts }

/-- A formatter of the widest column and one of a column that is wider by one, each behind a line sink. -/
theorem only_wide_columns_raise_past_the_widest :
    let s (w : UInt64) : Settings := Settings.standard.withCategoryWidth w
    let f (w : UInt64) : Formatter := .ofLayout (.ofSettings (s w))
    let x (w : UInt64) : Facility := { start .nobody ⟨[]⟩ "" none with
      sinks := ⟨#[.lines ⟨f w, none, ⟨.unlimited, 0⟩⟩]⟩ }
    let d : Draft := ⟨.error, "late", some "bus", .medium, ⟨"bus", 1⟩, some ⟨0⟩⟩
    let turns : List (Option (Ref Sink) × Turn) :=
      [(d.sink, .report d.record), (none, .registry none (.setLevel .off)), (none, .report d.record)]
    (f 65535).Follows (s 65535) ∧ (f 65536).Follows (s 65536) ∧ (x 65535).AllLegible ∧
      (∃ line, (f 65535).layout.line ⟨"", none, .simTime⟩ false d.record = .ok line ∧
        Layout.InColumn 65535 "ERROR: " d.record line) ∧
      (∀ m, (close d (x 65535)).1 ≠ .raised m) ∧
      ((Act.attempts takeAt turns (x 65535)).1 = .done [.ok (), .ok (), .ok ()] ∨
        (Act.attempts takeAt turns (x 65535)).1 = .aborted) ∧
      (close d (x 65536)).1 = .raised "Formatting argument out of range" := by
  intro s f x d turns
  have hf (w : UInt64) : (f w).Follows (s w) := rfl
  have hlegible : (x 65535).AllLegible := by
    refine ⟨trivial, fun k => ?_⟩
    have hsink : (x 65535).sinks.get k = .lines ⟨f 65535, none, ⟨.unlimited, 0⟩⟩ ∨
        (x 65535).sinks.get k = .memory #[] := by
      rcases k with ⟨_ | i⟩
      · exact .inl rfl
      · exact .inr rfl
    rcases hsink with h | h
    · rw [h]
      exact (by decide : (f 65535).layout.Fits)
    · rw [h]
      trivial
  have hwidest := only_wide_columns_raise (s 65535) (f 65535) (hf 65535)
  have hwider := only_wide_columns_raise (s 65536) (f 65536) (hf 65536)
  refine ⟨hf 65535, hf 65536, hlegible, ?_, fun m hm => ?_, hwidest.runs (x 65535) turns hlegible, ?_⟩
  · have hline := hwidest.written ⟨"", none, .simTime⟩ false d.record
    cases hmade : (f 65535).layout.line ⟨"", none, .simTime⟩ false d.record with
    | ok line =>
      rw [hmade] at hline
      exact ⟨line, rfl, hline.2⟩
    | error e =>
      rw [hmade] at hline
      exact absurd hline.1 (by decide)
  · exact absurd ((hwidest.raises (x 65535) d rfl m).mp hm).1 (by decide)
  · exact (hwider.raises (x 65536) d rfl _).mpr ⟨by decide, rfl⟩

/-- A width that is taken in each of the ways, for whose column no line is made, so that a draft raises. -/
theorem wider_than_widest_raises :
    let s : Settings := Settings.standard.withCategoryWidth 65536
    let f : Formatter := .ofLayout (.ofSettings s)
    let x : Facility := { start .nobody ⟨[]⟩ "" none with
      sinks := ⟨#[.lines ⟨f, none, ⟨.unlimited, 0⟩⟩]⟩ }
    let d : Draft := ⟨.error, "late", some "bus", .medium, ⟨"bus", 1⟩, some ⟨0⟩⟩
    Settings.parse? "\x7b\"category_width\":65536\x7d" = some s ∧
      Demo.Request.ofArguments ["--category-width", "65536"] =
        .run { Demo.Options.standard with categoryWidth := 65536 } ∧
      f.layout.render ⟨"", none, .simTime⟩ d.record = .error .tooWide ∧
      close d x = (.raised "Formatting argument out of range", x) := by
  intro s f x d
  refine ⟨?_, rfl, rfl, rfl⟩
  decide

end Facility

end Logbook
