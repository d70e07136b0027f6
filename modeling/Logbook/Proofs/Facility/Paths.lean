/-
# Two ways to the same log

A record reaches its line in two ways. A line sink renders it and writes the line to its device; an
event sink hands it to the backend as an event, and the backend reads the record off the fields again
and shows its line on the console. Both ask the same registry at the same moment, so over any run of
reports, changes of registries and clocks the two outputs are the same lines in the same order
(`console_eq_device`). Only the colours may differ: the console shows them where the layout asks for
them and the output can show them, the device wherever the layout asks for them.

Key definitions: `Turn`, `Facility.kept`, `Facility.log`, `Facility.Shows`, `Facility.Passes`,
`Facility.Writes`.
Key theorems: `Facility.report_of_passes`, `Facility.report_of_writes`,
`Facility.console_eq_device`.
-/
import Logbook.Proofs.Device.Buffer
import Logbook.Proofs.Event.RoundTrip
import Logbook.Proofs.Facility.Frame
import Logbook.Proofs.Layout.Line
import Logbook.Scenario.Play

namespace Logbook

/-- What happens around a sink: a record is reported to it, or something changes that decides about
records or shows in their lines. -/
inductive Turn where
  | report (r : Record)
  | registry (g : Option (Ref Registry)) (a : Scenario.RegistryAction)
  | clock (c : Ref Clock) (a : Scenario.ClockAction)
  | wall (time : String)

namespace Facility

/-- The change that a turn makes around the sink. -/
def turned : Turn → Facility → Facility
  | .report _, x => x
  | .registry g a, x => x.updateRegistry g a.change
  | .clock c a, x => { x with clocks := x.clocks.update c a.change }
  | .wall time, x => { x with wall := time }

/-- The changes of a run around the sink. -/
def around (ts : List Turn) (x : Facility) : Facility := ts.foldl (fun x t => turned t x) x

/-- Takes a turn around a sink. -/
def take (s : Ref Sink) : Turn → Act Facility Unit
  | .report r => report s r
  | t => Act.modify (turned t)

/-- The records that a sink is to keep which follows a registry, each with the moment at which a
formatter makes its line. -/
def kept (f : Formatter) (g : Option (Ref Registry)) : List Turn → Facility → List (Moment × Record)
  | [], _ => []
  | .report r :: ts, x =>
    if (x.registryOf g).admits r then (x.moment f, r) :: kept f g ts x else kept f g ts x
  | t :: ts, x => kept f g ts (turned t x)

/-- The bytes of the lines of some records. -/
def log (x : Layout) (colored : Bool) (ls : List (Moment × Record)) : List UInt8 :=
  ls.flatMap fun l => Text.bytes (x.text l.1 colored l.2 ++ "\n")

/-! ### What the bearings decide -/

theorem moment_of_bearings {x y : Facility} (h : x.bearings = y.bearings) (f : Formatter) :
    x.moment f = y.moment f := by
  have hwall : x.wall = y.wall := congrArg Bearings.wall h
  have hclocks : x.clocks = y.clocks := congrArg Bearings.clocks h
  have hreading : x.reading f.time = y.reading f.time := by
    cases f.time <;> simp only [reading, hclocks]
  rw [moment, moment, hwall, hreading, registryOf_bearings h]

theorem turned_bearings {x y : Facility} (h : x.bearings = y.bearings) (t : Turn) :
    (turned t x).bearings = (turned t y).bearings := by
  simp only [bearings, Bearings.mk.injEq] at h ⊢
  cases t with
  | report r => exact h
  | registry g a => cases g <;> simp only [turned, updateRegistry, h, and_self]
  | clock c a => simp only [turned, h, and_self]
  | wall time => simp only [turned, h, and_self]

theorem kept_of_bearings (f : Formatter) (g : Option (Ref Registry)) :
    ∀ (ts : List Turn) {x y : Facility}, x.bearings = y.bearings → kept f g ts x = kept f g ts y
  | [], _, _, _ => rfl
  | .report r :: ts, x, y, h => by
    rw [kept, kept, registryOf_bearings h, moment_of_bearings h, kept_of_bearings f g ts h]
  | .registry g' a :: ts, _, _, h => kept_of_bearings f g ts (turned_bearings h (.registry g' a))
  | .clock c a :: ts, _, _, h => kept_of_bearings f g ts (turned_bearings h (.clock c a))
  | .wall time :: ts, _, _, h => kept_of_bearings f g ts (turned_bearings h (.wall time))

/-- A turn leaves what stands at the end of a record's way alone, but for the report. -/
theorem turned_ends (t : Turn) (x : Facility) :
    (turned t x).sinks = x.sinks ∧ (turned t x).subscriber = x.subscriber ∧
      (turned t x).console = x.console := by
  cases t with
  | report r => exact ⟨rfl, rfl, rfl⟩
  | registry g a => cases g <;> exact ⟨rfl, rfl, rfl⟩
  | clock c a => exact ⟨rfl, rfl, rfl⟩
  | wall time => exact ⟨rfl, rfl, rfl⟩

/-! ### Through the backend -/

/-- The backend shows every record that it is handed, in the lines of a formatter. -/
def Shows (f : Formatter) (ansi : Bool) (x : Facility) : Prop :=
  ∃ b, x.subscriber = .backend b ∧ b.formatter = f ∧ b.ansi = ansi ∧
    ∀ r, Directive.carries b.directives (.ofRecord r) = true

/-- An event sink passes on all records that a registry admits, and goes on after fatal ones. -/
def Passes (s : Ref Sink) (g : Option (Ref Registry)) (x : Facility) : Prop :=
  s.index < x.sinks.items.size ∧ ∃ e, x.sinks.get s = .events e ∧ e.registry = g ∧
    e.filter = none ∧ e.action = .ignore

/-- The bytes that a record becomes: those of its line, if a registry admits it. -/
def lineOf (f : Formatter) (g : Option (Ref Registry)) (colored : Bool) (r : Record)
    (x : Facility) : List UInt8 :=
  if (x.registryOf g).admits r then Text.bytes (f.layout.text (x.moment f) colored r ++ "\n") else []

theorem event_lineOf {x : Layout} (h : x.Fits) (m : Moment) (ansi : Bool) (r : Record) :
    (Event.ofRecord r).lineOf x m ansi = .ok (x.text m (x.colored && ansi) r ++ "\n") := by
  rw [Event.lineOf, Event.record_ofRecord, Layout.line_eq_text h]
  rfl

theorem writeLogFile_shows {f : Formatter} {ansi : Bool} {b : Backend} (hf : b.formatter = f)
    (ha : b.ansi = ansi) (hd : ∀ r, Directive.carries b.directives (.ofRecord r) = true)
    (l : LogFile) (bs : List UInt8) {x : Facility} (hx : x.subscriber = .backend b) :
    (x.writeLogFile b l bs).Shows f ansi := by
  unfold writeLogFile
  split
  · exact ⟨b, hx, hf, ha, hd⟩
  · exact ⟨_, rfl, hf, ha, hd⟩

theorem writeLogFile_ends (b : Backend) (l : LogFile) (bs : List UInt8) (x : Facility) :
    (x.writeLogFile b l bs).sinks = x.sinks ∧ (x.writeLogFile b l bs).console = x.console := by
  unfold writeLogFile
  split <;> exact ⟨rfl, rfl⟩

/-- A record that is handed on as an event ends up as its line on the console. -/
theorem carry_of_shows {f : Formatter} {ansi : Bool} {x : Facility} (hfit : f.layout.Fits)
    (hx : x.Shows f ansi) (r : Record) :
    ∃ y, carry (.ofRecord r) x = (.done (), y) ∧ y.Shows f ansi ∧ y.sinks = x.sinks ∧
      y.console = x.console ++
        Text.bytes (f.layout.text (x.moment f) (f.layout.colored && ansi) r ++ "\n") := by
  obtain ⟨b, hb, rfl, rfl, hd⟩ := hx
  simp only [carry, hb, hd, if_true, display, event_lineOf hfit]
  cases b.logFile with
  | none => exact ⟨_, rfl, ⟨b, hb, rfl, rfl, hd⟩, rfl, rfl⟩
  | some l =>
    obtain ⟨hsinks, hconsole⟩ := writeLogFile_ends b l
      (Text.bytes (b.formatter.layout.text (x.moment b.formatter)
        (b.formatter.layout.colored && false) r ++ "\n"))
      (x.print (Text.bytes (b.formatter.layout.text (x.moment b.formatter)
        (b.formatter.layout.colored && b.ansi) r ++ "\n")))
    exact ⟨_, rfl, writeLogFile_shows rfl rfl hd l _ hb, hsinks, hconsole⟩

theorem runHook_of_passes {s : Ref Sink} {g : Option (Ref Registry)} {x : Facility}
    {e : EventSink} (hs : s.index < x.sinks.items.size) (he : x.sinks.get s = .events e)
    (hg : e.registry = g) (hfilter : e.filter = none) (haction : e.action = .ignore) :
    (x.runHook s e).Passes s g ∧ (x.runHook s e).subscriber = x.subscriber ∧
      (x.runHook s e).console = x.console := by
  unfold runHook
  split
  · refine ⟨⟨?_, { e with calls := e.calls + 1 }, ?_, hg, hfilter, haction⟩, rfl, rfl⟩
    · simpa [note, putSink, Table.put] using hs
    · simp only [note, putSink, Table.get_put hs]
  · exact ⟨⟨hs, e, he, hg, hfilter, haction⟩, rfl, rfl⟩
  · exact ⟨⟨hs, e, he, hg, hfilter, haction⟩, rfl, rfl⟩

/-- An event sink that passes records on returns, and what the registry admits is on the console. -/
theorem report_of_passes {f : Formatter} {ansi : Bool} {s : Ref Sink} {g : Option (Ref Registry)}
    {x : Facility} (hfit : f.layout.Fits) (hx : x.Shows f ansi) (hs : x.Passes s g) (r : Record) :
    ∃ y, report s r x = (.done (), y) ∧ y.Shows f ansi ∧ y.Passes s g ∧
      y.console = x.console ++ lineOf f g (f.layout.colored && ansi) r x := by
  obtain ⟨hin, e, he, hg, hfilter, haction⟩ := hs
  have haccepts : x.accepts e r = (x.registryOf g).admits r := by simp [accepts, hfilter, hg]
  -- first the event, if there is one, and then what a fatal record asks for
  obtain ⟨y, hy, hshows, hsinks, hconsole⟩ : ∃ y,
      (if x.accepts e r = true then carry (.ofRecord r) else pure () : Act Facility Unit) x =
          (.done (), y) ∧ y.Shows f ansi ∧ y.sinks = x.sinks ∧
        y.console = x.console ++ lineOf f g (f.layout.colored && ansi) r x := by
    by_cases ha : (x.registryOf g).admits r = true
    · simp only [haccepts, ha, if_true, lineOf]
      exact carry_of_shows hfit hx r
    · simp only [haccepts, ha, Bool.false_eq_true, if_false, lineOf]
      exact ⟨x, rfl, hx, rfl, by simp⟩
  have hey : y.sinks.get s = .events e := hsinks ▸ he
  have hiny : s.index < y.sinks.items.size := hsinks ▸ hin
  have hrun : report s r x = conclude s e r y := by
    simp only [report, he, pass_run]
    by_cases ha : x.accepts e r = true
    · rw [if_pos ha] at hy
      rw [if_pos ha, Act.bind_of_done _ hy]
    · rw [if_neg ha] at hy
      rw [if_neg ha, (Prod.mk.inj hy).2]
  by_cases hfatal : r.severity = .fatal
  · have hhook := runHook_of_passes hiny hey hg hfilter haction
    refine ⟨y.runHook s e, ?_, ?_, hhook.1, ?_⟩
    · rw [hrun, conclude, if_pos hfatal, haction]
      rfl
    · obtain ⟨b, hb, hrest⟩ := hshows
      exact ⟨b, hhook.2.1.trans hb, hrest⟩
    · rw [hhook.2.2, hconsole]
  · refine ⟨y, ?_, hshows, ⟨hiny, e, hey, hg, hfilter, haction⟩, hconsole⟩
    rw [hrun, conclude, if_neg hfatal]
    rfl

/-! ### Straight to a device -/

/-- A line sink writes the lines of a formatter for all records that a registry admits, and its
device, which can be written to, holds a content. -/
def Writes (s : Ref Sink) (f : Formatter) (g : Option (Ref Registry)) (b : Buffer)
    (x : Facility) : Prop :=
  s.index < x.sinks.items.size ∧ b.failsWrites = false ∧
    ∃ n, x.sinks.get s = .lines ⟨f, g, ⟨b, n⟩⟩

theorem get_settleLines {s : Ref Sink} {x : Facility} (hs : s.index < x.sinks.items.size)
    (k : LineSink) (t : Tally Buffer) :
    s.index < (x.settleLines s k t).sinks.items.size ∧
      (x.settleLines s k t).sinks.get s = .lines { k with tally := t } := by
  rw [settleLines_sinks, Table.get_put hs]
  exact ⟨by simpa [Table.put] using hs, rfl⟩

/-- A line sink returns, and what the registry admits is on its device. -/
theorem report_of_writes {s : Ref Sink} {f : Formatter} {g : Option (Ref Registry)} {b : Buffer}
    {x : Facility} (hfit : f.layout.Fits) (hx : x.Writes s f g b) (r : Record) :
    ∃ y, report s r x = (.done (), y) ∧
      y.Writes s f g (b.keeping (lineOf f g f.layout.colored r x)) := by
  obtain ⟨hin, hwrites, n, hs⟩ := hx
  simp only [report, hs, writeLine, lineReport, Layout.render, Layout.line_eq_text hfit, lineOf]
  by_cases ha : (x.registryOf g).admits r = true
  · simp only [ha, if_true]
    have hdevice := Buffer.deliver_content hwrites
      (Text.bytes (f.layout.text (x.moment f) f.layout.colored r ++ "\n")) n
    rw [← hdevice]
    exact ⟨_, rfl, (get_settleLines hin _ _).1, hdevice ▸ hwrites, _, (get_settleLines hin _ _).2⟩
  · simp only [ha, Bool.false_eq_true, if_false]
    refine ⟨_, rfl, (get_settleLines hin _ _).1, hwrites, n, ?_⟩
    rw [(get_settleLines hin _ _).2, Buffer.keeping_nil]

/-! ### Whole runs -/

theorem log_kept_report (f : Formatter) (g : Option (Ref Registry)) (colored : Bool) (r : Record)
    (ts : List Turn) (x : Facility) :
    log f.layout colored (kept f g (.report r :: ts) x) =
      lineOf f g colored r x ++ log f.layout colored (kept f g ts x) := by
  rw [kept, lineOf]
  split
  · rfl
  · rfl

/-- The console shows the lines of what the registry admits. -/
theorem console_of_turns {f : Formatter} {ansi : Bool} {s : Ref Sink} {g : Option (Ref Registry)}
    (hfit : f.layout.Fits) : ∀ (ts : List Turn) {x : Facility}, x.Shows f ansi → x.Passes s g →
      ∃ y, Act.each (take s) ts x = (.done (), y) ∧
        y.console = x.console ++ log f.layout (f.layout.colored && ansi) (kept f g ts x)
  | [], x, _, _ => ⟨x, rfl, by simp [kept, log]⟩
  | t :: ts, x, hx, hs => by
    have hchange (ht : take s t = Act.modify (turned t))
        (hk : kept f g (t :: ts) x = kept f g ts (turned t x)) :
        ∃ y, Act.each (take s) (t :: ts) x = (.done (), y) ∧
          y.console = x.console ++
            log f.layout (f.layout.colored && ansi) (kept f g (t :: ts) x) := by
      obtain ⟨hsinks, hsubscriber, hconsole⟩ := turned_ends t x
      have hx' : (turned t x).Shows f ansi := by rwa [Shows, hsubscriber]
      have hs' : (turned t x).Passes s g := by rwa [Passes, hsinks]
      obtain ⟨y, hy, hlog⟩ := console_of_turns hfit ts hx' hs'
      refine ⟨y, ?_, by rw [hlog, hconsole, hk]⟩
      rw [Act.each_cons, ht]
      exact hy
    cases t with
    | report r =>
      obtain ⟨y, hy, hshows, hpasses, hline⟩ := report_of_passes hfit hx hs r
      obtain ⟨z, hz, hlog⟩ := console_of_turns hfit ts hshows hpasses
      have hkeep : y.bearings = x.bearings := by
        have hbearings := report_keeps s r x
        rwa [hy] at hbearings
      refine ⟨z, by rw [Act.each_cons, take, Act.bind_of_done _ hy, hz], ?_⟩
      rw [hlog, hline, log_kept_report, kept_of_bearings f g ts hkeep]
      exact Array.ext' (by simp)
    | registry g' a => exact hchange rfl rfl
    | clock c a => exact hchange rfl rfl
    | wall time => exact hchange rfl rfl

/-- The device holds the lines of what the registry admits. -/
theorem device_of_turns {f : Formatter} {s : Ref Sink} {g : Option (Ref Registry)}
    (hfit : f.layout.Fits) : ∀ (ts : List Turn) {b : Buffer} {x : Facility}, x.Writes s f g b →
      ∃ y, Act.each (take s) ts x = (.done (), y) ∧
        y.Writes s f g (b.keeping (log f.layout f.layout.colored (kept f g ts x)))
  | [], b, x, hx => ⟨x, rfl, by simpa [kept, log] using hx⟩
  | t :: ts, b, x, hx => by
    have hchange (ht : take s t = Act.modify (turned t))
        (hk : kept f g (t :: ts) x = kept f g ts (turned t x)) :
        ∃ y, Act.each (take s) (t :: ts) x = (.done (), y) ∧
          y.Writes s f g (b.keeping (log f.layout f.layout.colored (kept f g (t :: ts) x))) := by
      have hx' : (turned t x).Writes s f g b := by rwa [Writes, (turned_ends t x).1]
      obtain ⟨y, hy, hlog⟩ := device_of_turns hfit ts hx'
      refine ⟨y, ?_, by rwa [hk]⟩
      rw [Act.each_cons, ht]
      exact hy
    cases t with
    | report r =>
      obtain ⟨y, hy, hwrites⟩ := report_of_writes hfit hx r
      obtain ⟨z, hz, hlog⟩ := device_of_turns hfit ts hwrites
      have hkeep : y.bearings = x.bearings := by
        have hbearings := report_keeps s r x
        rwa [hy] at hbearings
      refine ⟨z, by rw [Act.each_cons, take, Act.bind_of_done _ hy, hz], ?_⟩
      rwa [log_kept_report, ← Buffer.keeping_keeping, ← kept_of_bearings f g ts hkeep]
    | registry g' a => exact hchange rfl rfl
    | clock c a => exact hchange rfl rfl
    | wall time => exact hchange rfl rfl

/-- **Both ways give the same log.** A record is read off its event again as it was. So, with a
formatter whose column can be made, let records be reported while registries, clocks and the time of
day change, once to an event sink that passes on what a registry admits, into a backend that shows it
with that formatter, and once to a line sink with that formatter which follows the same registry. Both
runs return, and the console and the device gain the lines of the same records, made at the same
moments; those on the console have colours exactly if the formatter has them and the output can show
them. A line with colours is the one without, with one sequence before the label of the level and one
behind it; without labels there are none. -/
theorem console_eq_device (f : Formatter) (g : Option (Ref Registry)) (ansi : Bool)
    (s k : Ref Sink) (b : Buffer) (x : Facility) (turns : List Turn)
    (hfit : f.layout.categoryWidth.toNat ≤ 65535) (hshows : x.Shows f ansi)
    (hpasses : x.Passes s g) (hwrites : x.Writes k f g b) :
    (∀ r, (Event.ofRecord r).record = r) ∧
    (∃ y z, Act.each (take s) turns x = (.done (), y) ∧
      Act.each (take k) turns x = (.done (), z) ∧
      y.console =
        x.console ++ log f.layout (f.layout.colored && ansi) (kept f g turns x) ∧
      z.Writes k f g (b.keeping (log f.layout f.layout.colored (kept f g turns x)))) ∧
    ∀ m r,
      (∀ colored, f.layout.line m colored r = .ok (f.layout.text m colored r)) ∧
      (f.layout.severity = true → Style.set r.level ≠ "" ∧
        f.layout.text m false r = f.layout.front m ++ r.level.name ++ f.layout.back r ∧
        f.layout.text m true r = f.layout.front m ++ Style.set r.level ++ r.level.name ++
          Style.reset r.level ++ f.layout.back r) ∧
      (f.layout.severity = false → f.layout.text m true r = f.layout.text m false r) := by
  refine ⟨Event.record_ofRecord, ?_, fun m r => ⟨fun colored => Layout.line_eq_text hfit m colored r,
    fun h => ?_, fun h => Layout.text_of_no_severity h m r⟩⟩
  · obtain ⟨y, hy, hconsole⟩ := console_of_turns hfit turns hshows hpasses
    obtain ⟨z, hz, hdevice⟩ := device_of_turns hfit turns hwrites
    exact ⟨y, z, hy, hz, hconsole, hdevice⟩
  · exact ⟨Style.set_ne_empty r.level_ne_off, Layout.text_of_severity h m r⟩

/-- A warning, a record that is not admitted before the registry is turned up and one that is admitted
then, at a later time, shown on an output without colours and written to a device that takes three
bytes at a time. -/
theorem console_eq_device_while_turned_up :
    let f : Formatter := ⟨⟨3, false, true, false, true, true⟩, .clock ⟨0⟩, none⟩
    let b : Backend := ⟨[⟨some Event.reportTarget, none, none, some .trace⟩], f, false, none⟩
    let device : Buffer := ⟨#[], 3, false, false⟩
    let x : Facility := { Facility.start (.backend b) ⟨[]⟩ "" none with
      clocks := ⟨#[Clock.start]⟩
      sinks := ⟨#[.events ⟨none, none, none, 0, .ignore⟩, .lines ⟨f, none, ⟨device, 0⟩⟩]⟩ }
    let warned : Record := ⟨.warning, "bus", "late", .medium, ⟨"bus", 1⟩⟩
    let told : Record := ⟨.info, "bus", "idle", .medium, ⟨"bus", 2⟩⟩
    let turns : List Turn := [.report warned, .report told, .registry none (.setLevel .info),
      .clock ⟨0⟩ (.advance 5), .report told]
    f.layout.categoryWidth.toNat ≤ 65535 ∧ x.Shows f false ∧ x.Passes ⟨0⟩ none ∧
      x.Writes ⟨1⟩ f none device ∧
      (kept f none turns x).map (fun l => f.layout.text l.1 true l.2) =
        ["[0.000 s] \x1b[33mWARNING\x1b[0m: bus: late", "[5.000 ns] \x1b[32mINFO\x1b[0m: bus: idle"] ∧
      ∃ y z, Act.each (take ⟨0⟩) turns x = (.done (), y) ∧
        Act.each (take ⟨1⟩) turns x = (.done (), z) ∧
        y.console = x.console ++ log f.layout false (kept f none turns x) ∧
        z.Writes ⟨1⟩ f none (device.keeping (log f.layout true (kept f none turns x))) := by
  intro f b device x warned told turns
  have hcarries : ∀ r, Directive.carries b.directives (.ofRecord r) = true := by
    intro r
    have hconcerns : (⟨some Event.reportTarget, none, none, some .trace⟩ : Directive).concerns
        (.ofRecord r) = true := by simp [Directive.concerns, Event.ofRecord]
    have hrank : (Event.ofRecord r).level.rank ≤ EventLevel.trace.rank := by
      cases (Event.ofRecord r).level <;> decide
    simp [b, Directive.carries, Directive.deciding?, hconcerns, hrank]
  have hshows : x.Shows f false := ⟨b, rfl, rfl, rfl, hcarries⟩
  have hpasses : x.Passes ⟨0⟩ none := ⟨by decide, _, rfl, rfl, rfl, rfl⟩
  have hwrites : x.Writes ⟨1⟩ f none device := ⟨by decide, rfl, 0, rfl⟩
  have hfit : f.layout.categoryWidth.toNat ≤ 65535 := by decide
  have hruns := (console_eq_device f none false ⟨0⟩ ⟨1⟩ device x turns hfit hshows hpasses hwrites).2.1
  exact ⟨hfit, hshows, hpasses, hwrites, by decide +kernel, hruns⟩

end Facility

end Logbook
