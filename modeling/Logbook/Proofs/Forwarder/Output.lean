/-
# Redirected text keeps its lines

A forwarder may hand its records to a line sink that follows the same registry. Two scales then decide
about a segment: the forwarder asks for the level of the registry, the sink for the severity or for the
threshold of the category. `output_eq_lines` says that they agree as long as no threshold is set for the
category: what leaves the forwarder reaches the device, as one line for each segment, whatever bytes the
text consists of and however it was cut into writes.

Key definitions: `Registry.Plain`, `Forwarder.passing`, `Forwarder.Feeds`.
Key theorems: `Forwarder.admits_reported`, `Forwarder.Feeds.each_perform`, `Forwarder.output_eq_lines`.
-/
import Logbook.Proofs.Category.Ancestry
import Logbook.Proofs.Facility.Paths
import Logbook.Proofs.Forwarder.Run
import Logbook.Proofs.Layout.OneLine

namespace Logbook

/-! ### Levels and thresholds -/

namespace Registry

/-- No threshold is set for a category or for a name above it. Thresholds play no part for the empty
category. -/
def Plain (category : String) (r : Registry) : Prop :=
  category ≠ "" → ∀ a, Category.Covers a category → r.overrides.lookup a = none

theorem verbosityFor_of_plain {category : String} {r : Registry} (h : r.Plain category) :
    r.verbosityFor (some category) = r.verbosity := by
  rw [verbosityFor]
  split
  · rfl
  · next hc =>
    have hne : category ≠ "" := by
      rintro rfl
      exact hc rfl
    rw [(Category.findSome?_lineage_eq_none _ category).mpr (h hne)]
    rfl

end Registry

namespace Forwarder

/-- A record of a forwarder with a level is shown with that level. -/
theorem level_reported {f : Forwarder} (hf : f.level ≠ .off) (segment : List UInt8) :
    (f.reported segment).level = f.level := by
  rw [← record_eq_reported, Record.level]
  simp only [record]
  cases hl : f.level with
  | off => exact absurd hl hf
  | _ => decide

/-- A registry that opens the gate admits the record, if no threshold is set for its category. -/
theorem admits_reported {f : Forwarder} (hf : f.level ≠ .off) {r : Registry}
    (hopen : f.level ≤ r.level) (hplain : r.Plain (f.category.getD Record.defaultCategory))
    (segment : List UInt8) : r.admits (f.reported segment) = true := by
  have hthreshold := Level.verbosity_le_verbosity hopen
  rw [← record_eq_reported, Registry.admits]
  simp only [record, Registry.verbosityFor_of_plain hplain, Registry.verbosity]
  cases hl : f.level with
  | off => exact absurd hl hf
  | fatal => rfl
  | error | warning =>
    rw [hl] at hopen
    exact decide_eq_true hopen
  | info | debug | trace | traceAll =>
    rw [hl] at hthreshold
    exact decide_eq_true hthreshold

/-! ### Segments that pass -/

/-- The segment of a deed, if it is cut while the gate is open. -/
def Deed.passes? (f : Forwarder) : Deed → Option (List UInt8)
  | .cut segment l => if f.level ≠ .off ∧ f.level ≤ l then some segment else none
  | .turn _ => none

/-- The segments that are cut while the gate is open. -/
def passing (f : Forwarder) (ds : List Deed) : List (List UInt8) := ds.filterMap (Deed.passes? f)

theorem passing_cut {f : Forwarder} (hf : f.level ≠ .off) (segment : List UInt8) (l : Level)
    (ds : List Deed) :
    passing f (.cut segment l :: ds) =
      (if f.level ≤ l then [segment] else []) ++ passing f ds := by
  rw [passing, List.filterMap_cons, Deed.passes?]
  by_cases h : f.level ≤ l
  · simp only [hf, h, ne_eq, not_false_eq_true, and_self, if_true]
    rfl
  · simp only [h, and_false, if_false]
    rfl

/-- A segment has no newline in it. -/
theorem newline_notMem_passing (f : Forwarder) : ∀ (ts : List Tick) {held : List UInt8} {l : Level},
    newline ∉ held → ∀ segment ∈ passing f (deeds held l ts), newline ∉ segment
  | [], _, _, _, _, hm => by simp [passing, deeds] at hm
  | t :: ts, held, l, h, segment, hm => by
    have hcut (hm : segment ∈ passing f (.cut held l :: deeds [] l ts)) : newline ∉ segment := by
      rcases List.mem_filterMap.mp hm with ⟨d, hd, hsegment⟩
      rcases List.mem_cons.mp hd with rfl | hd
      · rw [Deed.passes?] at hsegment
        split at hsegment
        · exact (Option.some.inj hsegment) ▸ h
        · exact absurd hsegment (by simp)
      · exact newline_notMem_passing f ts List.not_mem_nil segment
          (List.mem_filterMap.mpr ⟨d, hd, hsegment⟩)
    cases t with
    | byte b =>
      rw [deeds] at hm
      split at hm
      · exact hcut hm
      · next hb =>
        refine newline_notMem_passing f ts (fun hn => ?_) segment hm
        rcases List.mem_append.mp hn with hn | hn
        · exact h hn
        · exact hb (List.mem_singleton.mp hn).symm
    | flush =>
      rw [deeds] at hm
      split at hm
      · exact newline_notMem_passing f ts List.not_mem_nil segment hm
      · exact hcut hm
    | level l' => exact newline_notMem_passing f ts h segment hm

end Forwarder

/-! ### Turning a registry -/

namespace Facility

theorem registryOf_turn {x : Facility} {f : Forwarder} (h : x.Has f.registry) (l : Level) :
    (x.turn f l).registryOf f.registry = (x.registryOf f.registry).setLevel l := by
  unfold turn updateRegistry
  cases hr : f.registry with
  | none => rfl
  | some r =>
    rw [hr] at h
    exact Table.get_update h _

/-- The level of a registry is all that is turned. -/
theorem registryOf_turn_cases (x : Facility) (f : Forwarder) (l : Level) (g : Option (Ref Registry)) :
    (x.turn f l).registryOf g = x.registryOf g ∨
      (x.turn f l).registryOf g = (x.registryOf g).setLevel l := by
  unfold turn updateRegistry
  cases f.registry with
  | none =>
    cases g with
    | none => exact .inr rfl
    | some q => exact .inl rfl
  | some r =>
    cases g with
    | none => exact .inl rfl
    | some q =>
      by_cases hq : r = q
      · subst hq
        by_cases hr : r.index < x.registries.items.size
        · exact .inr (Table.get_update hr _)
        · refine .inl ?_
          simp only [registryOf, Table.update, Table.put, Table.get,
            Array.setIfInBounds_eq_of_size_le (Nat.le_of_not_lt hr)]
      · exact .inl (Table.get_put_of_ne _ hq _)

/-- The level does not show in the time. -/
theorem moment_turn (x : Facility) (f : Forwarder) (l : Level) (fm : Formatter) :
    (x.turn f l).moment fm = x.moment fm := by
  have hdisplay : ((x.turn f l).registryOf fm.registry).timeDisplay =
      (x.registryOf fm.registry).timeDisplay := by
    rcases registryOf_turn_cases x f l fm.registry with h | h
    · rw [h]
    · rw [h]
      rfl
  have hplace : (x.turn f l).wall = x.wall ∧ (x.turn f l).reading fm.time = x.reading fm.time := by
    unfold turn updateRegistry
    cases f.registry <;> exact ⟨rfl, by cases fm.time <;> rfl⟩
  rw [moment, moment, hdisplay, hplace.1, hplace.2]

end Facility

/-! ### Through a line sink -/

namespace Forwarder

/-- The line of a segment. -/
def lineOf (f : Forwarder) (fm : Formatter) (m : Moment) (segment : List UInt8) : String :=
  fm.layout.text m fm.layout.colored (f.reported segment)

/-- A line sink takes the records of a forwarder: it follows the same registry, in which no threshold is
set for their category, its device holds a content, and it makes its lines at one moment. -/
structure Feeds (f : Forwarder) (s : Ref Sink) (fm : Formatter) (m : Moment) (b : Buffer)
    (x : Facility) : Prop where
  has : x.Has f.registry
  sink : f.sink = some s
  writes : x.Writes s fm f.registry b
  plain : (x.registryOf f.registry).Plain (f.category.getD Record.defaultCategory)
  moment : x.moment fm = m

namespace Feeds

variable {f : Forwarder} {s : Ref Sink} {fm : Formatter} {m : Moment} {b : Buffer} {x : Facility}

theorem turn (h : Feeds f s fm m b x) (l : Level) : Feeds f s fm m b (x.turn f l) := by
  have hsinks : (x.turn f l).sinks = x.sinks := by
    unfold Facility.turn Facility.updateRegistry
    split <;> rfl
  refine ⟨Facility.has_turn h.has l, h.sink, ?_, ?_, (Facility.moment_turn x f l fm).trans h.moment⟩
  · rw [Facility.Writes, hsinks]
    exact h.writes
  · rw [Facility.registryOf_turn h.has]
    exact h.plain

/-- A segment that is cut while the gate is open becomes a line, and any other one nothing. -/
theorem cut (hfit : fm.layout.Fits) (hf : f.level ≠ .off) (h : Feeds f s fm m b x)
    (segment : List UInt8) :
    ∃ y, (Deed.cut segment (x.levelFor f)).perform f x = (.done (), y) ∧
      y.levelFor f = x.levelFor f ∧
      Feeds f s fm m (b.keeping
        (if f.level ≤ x.levelFor f then Text.bytes (f.lineOf fm m segment ++ "\n") else [])) y := by
  by_cases ho : f.level ≤ x.levelFor f
  · have hadmits := admits_reported hf ho h.plain segment
    obtain ⟨y, hy, hwrites⟩ := Facility.report_of_writes hfit h.writes (f.reported segment)
    rw [Facility.lineOf, if_pos hadmits, h.moment] at hwrites
    have hperform : (Deed.cut segment (x.levelFor f)).perform f x = (.done (), y) := by
      rw [Deed.perform, if_pos ⟨hf, ho⟩, h.sink]
      exact hy
    have hkeep := perform_cut_keeps f segment (x.levelFor f) x
    rw [hperform] at hkeep
    refine ⟨y, hperform, Facility.levelFor_of_bearings hkeep f, ?_⟩
    rw [if_pos ho]
    exact ⟨Facility.has_of_bearings hkeep h.has, h.sink, hwrites,
      (Facility.registryOf_bearings hkeep f.registry) ▸ h.plain,
      (Facility.moment_of_bearings hkeep fm).trans h.moment⟩
  · refine ⟨x, ?_, rfl, ?_⟩
    · rw [Deed.perform, if_neg fun h' => ho h'.2]
      rfl
    · rwa [if_neg ho, Buffer.keeping_nil]

end Feeds

/-- The lines of some segments, as they stand on a device. -/
def output (f : Forwarder) (fm : Formatter) (m : Moment) (segments : List (List UInt8)) : List UInt8 :=
  ended (segments.map fun segment => Text.bytes (f.lineOf fm m segment))

theorem output_append (f : Forwarder) (fm : Formatter) (m : Moment) (ss ts : List (List UInt8)) :
    f.output fm m (ss ++ ts) = f.output fm m ss ++ f.output fm m ts := by
  simp [output, ended]

/-- What a history comes to returns, and leaves the lines of the segments that pass on the device. -/
theorem Feeds.each_perform {f : Forwarder} {s : Ref Sink} {fm : Formatter} {m : Moment}
    (hfit : fm.layout.Fits) (hf : f.level ≠ .off) : ∀ (ts : List Tick) (held : List UInt8)
      {b : Buffer} {x : Facility}, Feeds f s fm m b x →
      ∃ y, Act.each (Deed.perform f) (deeds held (x.levelFor f) ts) x = (.done (), y) ∧
        Feeds f s fm m (b.keeping
          (f.output fm m (passing f (deeds held (x.levelFor f) ts)))) y
  | [], _, b, x, h => ⟨x, rfl, by simpa [deeds, passing, output, ended] using h⟩
  | t :: ts, held, b, x, h => by
    have hcut : ∃ y, Act.each (Deed.perform f) (.cut held (x.levelFor f) :: deeds [] (x.levelFor f) ts)
          x = (.done (), y) ∧
        Feeds f s fm m (b.keeping (f.output fm m
          (passing f (.cut held (x.levelFor f) :: deeds [] (x.levelFor f) ts)))) y := by
      obtain ⟨z, hz, hlevel, hfeeds⟩ := h.cut hfit hf held
      obtain ⟨y, hy, hrest⟩ := hfeeds.each_perform hfit hf ts []
      rw [hlevel] at hy hrest
      refine ⟨y, by rw [Act.each_cons, Act.bind_of_done _ hz, hy], ?_⟩
      rw [passing_cut hf, output_append, ← Buffer.keeping_keeping]
      have hone : f.output fm m (if f.level ≤ x.levelFor f then [held] else []) =
          if f.level ≤ x.levelFor f then Text.bytes (f.lineOf fm m held ++ "\n") else [] := by
        split
        · simp [output, ended, Text.bytes_line]
        · rfl
      rwa [hone]
    cases t with
    | byte c =>
      rw [deeds]
      split
      · exact hcut
      · exact h.each_perform hfit hf ts _
    | flush =>
      rw [deeds]
      split
      · exact h.each_perform hfit hf ts []
      · exact hcut
    | level l' =>
      have hturned := (h.turn l').each_perform hfit hf ts held
      rw [Facility.levelFor_turn h.has] at hturned
      exact hturned

/-- What a line looks like: it ends with the text of its segment, and where levels are shown it shows the
one of the forwarder. -/
theorem lineOf_eq {f : Forwarder} (hf : f.level ≠ .off) (fm : Formatter) (m : Moment)
    (segment : List UInt8) :
    (∃ before, f.lineOf fm m segment = before ++ Text.ofBytes segment) ∧
      (fm.layout.severity = true → f.lineOf fm m segment = fm.layout.front m ++
        (if fm.layout.colored then Style.set f.level ++ f.level.name ++ Style.reset f.level
          else f.level.name) ++ fm.layout.back (f.reported segment)) := by
  refine ⟨⟨_, rfl⟩, fun hs => ?_⟩
  obtain ⟨hplain, hcolored⟩ := Layout.text_of_severity hs m (f.reported segment)
  rw [level_reported hf] at hplain hcolored
  rw [lineOf]
  cases fm.layout.colored with
  | false => exact hplain
  | true => simpa [String.append_assoc] using hcolored

/-- **A forwarder and a line sink keep the lines of what is written.** Let a forwarder that has a level
and holds nothing yet report to a line sink that follows the same registry, with a formatter whose column
can be made and a device that can be written to. Let no threshold be set for the forwarder's category, and
let there be no newline in it or in the time of day. Whatever bytes are written, flushed and cut by giving
the forwarder up, while the level of the registry changes: every call returns, the registry admits at any
time the records that the open gate lets through, and what the device gains are the lines of exactly the
segments that pass. There are as many newlines as such segments, and cutting at them gives back the lines
one by one as the formatter makes them, with nothing behind the last newline. A line ends with the text of
its segment, and where levels are shown it shows the one of the forwarder. -/
theorem output_eq_lines (f : Forwarder) (s : Ref Sink) (fm : Formatter) (b : Buffer) (x : Facility)
    (calls : List Call) (hlevel : f.level ≠ .off) (hpending : f.pending = []) (hsink : f.sink = some s)
    (hhas : x.Has f.registry) (hwrites : x.Writes s fm f.registry b)
    (hfit : fm.layout.categoryWidth.toNat ≤ 65535)
    (hcategory : '\n' ∉ (f.category.getD "SystemC").toList)
    (hwall : fm.layout.wallTime = true → '\n' ∉ x.wall.toList)
    (hplain : (x.registryOf f.registry).Plain (f.category.getD "SystemC")) :
    (∀ past rest, calls = past ++ rest → ∃ held z,
      runAll past (f, x) = (.done (past.map Call.answer), (f.holding held, z)) ∧
        (f.level ≤ z.levelFor f → ∀ segment,
          (z.registryOf f.registry).admits (f.reported segment) = true)) ∧
    ∃ out y,
      let segments := passing f (deeds [] (x.levelFor f) (history calls ++ [.flush]))
      runToEnd f calls x = (.done (calls.map Call.answer), y) ∧
      y.Writes s fm f.registry (b.keeping out) ∧
      out.count newline = segments.length ∧
      out.splitOn newline =
        (segments.map fun segment => Text.bytes (f.lineOf fm (x.moment fm) segment)) ++ [[]] ∧
      ∀ segment ∈ segments,
        fm.layout.render (x.moment fm) (f.reported segment) =
          .ok (f.lineOf fm (x.moment fm) segment) ∧
        (∃ before, f.lineOf fm (x.moment fm) segment = before ++ Text.ofBytes segment) ∧
        (fm.layout.severity = true → f.lineOf fm (x.moment fm) segment =
          fm.layout.front (x.moment fm) ++
            (if fm.layout.colored then Style.set f.level ++ f.level.name ++ Style.reset f.level
              else f.level.name) ++ fm.layout.back (f.reported segment)) := by
  have hfeeds : Feeds f s fm (x.moment fm) b x := ⟨hhas, hsink, hwrites, hplain, rfl⟩
  constructor
  · rintro past rest -
    obtain ⟨z, hz, hfed⟩ := hfeeds.each_perform hfit hlevel (history past) []
    rw [← hpending] at hz
    exact ⟨_, z, (runAll_eq past hhas hz).1,
      fun hopen segment => admits_reported hlevel hopen hfed.plain segment⟩
  · obtain ⟨y, hy, hfed⟩ :=
      hfeeds.each_perform hfit hlevel (history calls ++ [.flush]) []
    have hlines : ∀ line ∈ (passing f (deeds [] (x.levelFor f) (history calls ++ [.flush]))).map
        (fun segment => Text.bytes (f.lineOf fm (x.moment fm) segment)), newline ∉ line := by
      intro line hline
      obtain ⟨segment, hsegment, rfl⟩ := List.mem_map.mp hline
      have hmessage := newline_notMem_passing f _ List.not_mem_nil segment hsegment
      exact Text.newline_notMem_bytes
        (fm.layout.oneLine_text _ hwall hcategory (Text.oneLine_ofBytes hmessage))
    refine ⟨_, y, runToEnd_eq calls hhas (by rw [hpending]; exact hy), hfed.writes, ?_, ?_,
      fun segment _ => ⟨Layout.line_eq_text hfit _ _ _, lineOf_eq hlevel fm _ segment⟩⟩
    · rw [output, count_ended hlines, List.length_map]
    · rw [output, splitOn_ended hlines]

/-- A line over two writes with a byte that spells nothing, one that is cut while the gate is closed, and a
rest that a flush cuts, on a device that takes two bytes at a time; a threshold is set for a category
below the one of the forwarder. -/
theorem output_eq_lines_over_a_closed_gate :
    let f : Forwarder :=
      { ofLevel .trace ⟨"model", 1⟩ with category := some "lib.dma", sink := some ⟨0⟩ }
    let fm : Formatter := ⟨⟨3, true, false, false, true, true⟩, .none, none⟩
    let device : Buffer := ⟨#[], 2, false, false⟩
    let x : Facility := { Facility.start .nobody ⟨[]⟩ "12:00:00.000" none with
      registry := (Registry.ofLevel .trace).setCategoryLevel "lib.dma.in" .off
      sinks := ⟨#[.lines ⟨fm, none, ⟨device, 0⟩⟩]⟩ }
    let calls : List Call := [.write [0x61], .write [0x62, 0xff, 0x0a, 0x63], .setLevel .info,
      .write [0x0a], .setLevel .traceAll, .write [0x64], .flush]
    f.level ≠ .off ∧ f.pending = [] ∧ f.sink = some ⟨0⟩ ∧ x.Has f.registry ∧
      x.Writes ⟨0⟩ fm f.registry device ∧ fm.layout.categoryWidth.toNat ≤ 65535 ∧
      '\n' ∉ (f.category.getD "SystemC").toList ∧ '\n' ∉ x.wall.toList ∧
      (x.registryOf f.registry).Plain (f.category.getD "SystemC") ∧
      passing f (deeds [] (x.levelFor f) (history calls ++ [.flush])) = [[0x61, 0x62, 0xff], [0x64]] ∧
      ∃ out y, runToEnd f calls x = (.done (calls.map Call.answer), y) ∧
        y.Writes ⟨0⟩ fm none (device.keeping out) ∧
        out.splitOn newline =
          [Text.bytes "[12:00:00.000] \x1b[2mTRACE\x1b[0m: lib.dma: ab\uFFFD",
            Text.bytes "[12:00:00.000] \x1b[2mTRACE\x1b[0m: lib.dma: d", []] := by
  intro f fm device x calls
  have hplain : (x.registryOf f.registry).Plain (f.category.getD "SystemC") := by
    intro _ a ha
    have hmem := Category.mem_lineage.mpr ha
    rw [show Category.lineage (f.category.getD "SystemC") = ["lib.dma", "lib"] by decide] at hmem
    rcases List.mem_cons.mp hmem with rfl | hmem
    · decide
    · obtain rfl := List.mem_singleton.mp hmem
      decide
  have hwrites : x.Writes ⟨0⟩ fm f.registry device := ⟨by decide, rfl, 0, rfl⟩
  have hsegments :
      passing f (deeds [] (x.levelFor f) (history calls ++ [.flush])) = [[0x61, 0x62, 0xff], [0x64]] := by
    decide
  have hcategory : '\n' ∉ (f.category.getD "SystemC").toList := by decide
  have hwall : '\n' ∉ x.wall.toList := by decide
  obtain ⟨-, out, y, hrun, hout, -, hsplit, -⟩ := output_eq_lines f ⟨0⟩ fm device x calls (by decide) rfl
    rfl trivial hwrites (by decide) hcategory (fun _ => hwall) hplain
  refine ⟨by decide, rfl, rfl, trivial, hwrites, by decide, hcategory, hwall, hplain, hsegments, out, y,
    hrun, hout, ?_⟩
  rw [hsplit, hsegments]
  decide +kernel

end Forwarder

end Logbook
