/-
# The lines of a run

A line sink makes the line of a record at the moment of the report, if its registry admits the record
then, and hands it to its device. So over any run of reports, changes of registries and clocks the
device gets one delivery for each of the lines, in the order of the reports, and nothing else
(`lines_eq_handovers`): what failed before shows in no later delivery, and a record that is not admitted
or whose line cannot be made leaves no trace. This holds for every device; the sinks of a facility
are the case in which it is a buffer.

Key definitions: `Facility.lines`, `Facility.reply`, `Facility.takeLine`.
Key theorems: `Facility.attempts_takeLine`, `Facility.lines_eq_handovers`.
-/
import Logbook.Proofs.Act.Attempts
import Logbook.Proofs.Device.Exchange
import Logbook.Proofs.Facility.Paths

namespace Logbook

/-- The ending of an action that raises its errors. -/
def Outcome.ofExcept {α : Type} : Except String α → Outcome α
  | .ok a => .done a
  | .error m => .raised m

namespace Facility

variable {δ : Type}

/-- The bytes of the lines that a sink with a formatter makes along a run, each with its end. -/
def lines (f : Formatter) (g : Option (Ref Registry)) (ts : List Turn) (x : Facility) :
    List (List UInt8) :=
  (kept f g ts x).filterMap fun l =>
    ((f.layout.render l.1 l.2).map fun line => Text.bytes (line ++ "\n")).toOption

/-- What becomes of a turn: a line that cannot be made raises a message. -/
def reply (f : Formatter) (g : Option (Ref Registry)) : Turn → Facility → Except String Unit
  | .report r, x =>
    if (x.registryOf g).admits r then
      match f.layout.render (x.moment f) r with
      | .ok _ => .ok ()
      | .error e => .error e.message
    else .ok ()
  | _, _ => .ok ()

/-- What becomes of the turns of a run. -/
def replies (f : Formatter) (g : Option (Ref Registry)) :
    List Turn → Facility → List (Except String Unit)
  | [], _ => []
  | t :: ts, x => reply f g t x :: replies f g ts (turned t x)

/-- Reports a record to a line sink with any device, which stands beside a facility. -/
def reportLine (d : Device δ) (f : Formatter) (g : Option (Ref Registry)) (r : Record) :
    Act (Tally δ × Facility) Unit := fun (u, x) =>
  match lineReport d (x.registryOf g) f.layout (x.moment f) r u with
  | .ok v => (.done (), (v, x))
  | .error e => (.raised e.message, (u, x))

/-- Takes a turn around a line sink that stands beside a facility. -/
def takeLine (d : Device δ) (f : Formatter) (g : Option (Ref Registry)) :
    Turn → Act (Tally δ × Facility) Unit
  | .report r => reportLine d f g r
  | t => Act.beside (Act.modify (turned t))

/-! ### Cutting a run -/

theorem lines_cons (f : Formatter) (g : Option (Ref Registry)) (t : Turn) (ts : List Turn)
    (x : Facility) : lines f g (t :: ts) x = lines f g [t] x ++ lines f g ts (turned t x) := by
  cases t with
  | report r =>
    simp only [lines, kept, turned]
    split
    · exact List.filterMap_append (l := [(x.moment f, r)])
    · rfl
  | registry g' a => rfl
  | clock c a => rfl
  | wall time => rfl

theorem lines_append (f : Formatter) (g : Option (Ref Registry)) :
    ∀ (ts us : List Turn) (x : Facility),
      lines f g (ts ++ us) x = lines f g ts x ++ lines f g us (around ts x)
  | [], _, _ => rfl
  | t :: ts, us, x => by
    rw [List.cons_append, lines_cons, lines_append f g ts us, lines_cons f g t ts, List.append_assoc]
    rfl

theorem replies_append (f : Formatter) (g : Option (Ref Registry)) :
    ∀ (ts us : List Turn) (x : Facility),
      replies f g (ts ++ us) x = replies f g ts x ++ replies f g us (around ts x)
  | [], _, _ => rfl
  | t :: ts, us, x => by
    rw [List.cons_append, replies, replies_append f g ts us]
    rfl

theorem length_replies (f : Formatter) (g : Option (Ref Registry)) :
    ∀ (ts : List Turn) (x : Facility), (replies f g ts x).length = ts.length
  | [], _ => rfl
  | t :: ts, x => congrArg Nat.succ (length_replies f g ts (turned t x))

/-- The line of a record. -/
theorem lines_report (f : Formatter) (g : Option (Ref Registry)) (r : Record) (x : Facility) :
    lines f g [.report r] x =
      if (x.registryOf g).admits r then
        match f.layout.render (x.moment f) r with
        | .ok line => [Text.bytes (line ++ "\n")]
        | .error _ => []
      else [] := by
  simp only [lines, kept]
  split
  · simp only [List.filterMap_cons, List.filterMap_nil]
    cases f.layout.render (x.moment f) r <;> rfl
  · rfl

/-- A record that is not admitted has no line, and neither has one whose line cannot be made. -/
theorem lines_of_report_eq_nil {f : Formatter} {g : Option (Ref Registry)} {r : Record} {x : Facility}
    (h : (x.registryOf g).admits r = true → ∃ e, f.layout.render (x.moment f) r = .error e) :
    lines f g [.report r] x = [] := by
  rw [lines_report]
  split
  · next ha =>
    obtain ⟨e, he⟩ := h ha
    rw [he]
  · rfl

/-! ### Runs -/

/-- At a turn a line sink hands over the line that is made then, if there is one. -/
theorem takeLine_eq (d : Device δ) (f : Formatter) (g : Option (Ref Registry)) (t : Turn)
    (u : Tally δ) (x : Facility) :
    takeLine d f g t (u, x) =
      (.ofExcept (reply f g t x), (u.deliverAll d (lines f g [t] x), turned t x)) := by
  have hchange (ht : takeLine d f g t = Act.beside (Act.modify (turned t)))
      (hreply : reply f g t x = .ok ()) (hlines : lines f g [t] x = []) :
      takeLine d f g t (u, x) =
        (.ofExcept (reply f g t x), (u.deliverAll d (lines f g [t] x), turned t x)) := by
    rw [ht, hreply, hlines, Tally.deliverAll_nil]
    rfl
  cases t with
  | report r =>
    simp only [takeLine, reportLine, lineReport, reply, lines_report, turned]
    by_cases ha : (x.registryOf g).admits r = true
    · simp only [ha, if_true]
      cases f.layout.render (x.moment f) r with
      | ok line => simp only [Outcome.ofExcept, Tally.deliverAll_singleton]
      | error e => simp only [Outcome.ofExcept, Tally.deliverAll_nil]
    · simp only [ha, Bool.false_eq_true, if_false, Outcome.ofExcept, Tally.deliverAll_nil]
  | registry g' a => exact hchange rfl rfl rfl
  | clock c a => exact hchange rfl rfl rfl
  | wall time => exact hchange rfl rfl rfl

/-- A run hands over the lines that are made along it. -/
theorem attempts_takeLine (d : Device δ) (f : Formatter) (g : Option (Ref Registry)) :
    ∀ (ts : List Turn) (u : Tally δ) (x : Facility),
      Act.attempts (takeLine d f g) ts (u, x) =
        (.done (replies f g ts x), (u.deliverAll d (lines f g ts x), around ts x))
  | [], _, _ => rfl
  | t :: ts, u, x => by
    have hrest := attempts_takeLine d f g ts (u.deliverAll d (lines f g [t] x)) (turned t x)
    rw [Act.attempts_cons, takeLine_eq, lines_cons f g t ts, Tally.deliverAll_append, replies]
    rcases reply f g t x with m | ⟨⟩ <;> simp only [Outcome.ofExcept, Act.map, hrest] <;> rfl

/-! ### The sinks of a facility -/

theorem reply_of_bearings {x y : Facility} (h : x.bearings = y.bearings) (f : Formatter)
    (g : Option (Ref Registry)) (t : Turn) : reply f g t x = reply f g t y := by
  cases t <;> simp only [reply, registryOf_bearings h, moment_of_bearings h]

theorem replies_of_bearings (f : Formatter) (g : Option (Ref Registry)) :
    ∀ (ts : List Turn) {x y : Facility}, x.bearings = y.bearings → replies f g ts x = replies f g ts y
  | [], _, _, _ => rfl
  | t :: ts, _, _, h => by
    rw [replies, replies, reply_of_bearings h, replies_of_bearings f g ts (turned_bearings h t)]

theorem lines_of_bearings {x y : Facility} (h : x.bearings = y.bearings) (f : Formatter)
    (g : Option (Ref Registry)) (ts : List Turn) : lines f g ts x = lines f g ts y := by
  rw [lines, lines, kept_of_bearings f g ts h]

/-- A facility has a line sink with a formatter, a registry and a tally. -/
def HasLines (s : Ref Sink) (f : Formatter) (g : Option (Ref Registry)) (u : Tally Buffer)
    (x : Facility) : Prop :=
  s.index < x.sinks.items.size ∧ x.sinks.get s = .lines ⟨f, g, u⟩

/-- A line sink of a facility takes a turn like one that stands beside it and writes to a buffer. -/
theorem take_of_hasLines {s : Ref Sink} {f : Formatter} {g : Option (Ref Registry)} {u : Tally Buffer}
    {x : Facility} (hx : x.HasLines s f g u) (t : Turn) :
    ∃ y, take s t x = (.ofExcept (reply f g t x), y) ∧ y.bearings = (turned t x).bearings ∧
      y.HasLines s f g (u.deliverAll Buffer.device (lines f g [t] x)) := by
  have hchange (ht : take s t = Act.modify (turned t)) (hreply : reply f g t x = .ok ())
      (hlines : lines f g [t] x = []) :
      ∃ y, take s t x = (.ofExcept (reply f g t x), y) ∧ y.bearings = (turned t x).bearings ∧
        y.HasLines s f g (u.deliverAll Buffer.device (lines f g [t] x)) := by
    rw [ht, hreply, hlines]
    exact ⟨turned t x, rfl, rfl, by rwa [HasLines, (turned_ends t x).1]⟩
  cases t with
  | report r =>
    obtain ⟨hin, hs⟩ := hx
    have htake : take s (.report r) x = writeLine s ⟨f, g, u⟩ r x := by simp only [take, report, hs]
    have hone := takeLine_eq Buffer.device f g (.report r) u x
    rw [htake, writeLine]
    simp only [takeLine, reportLine] at hone
    cases hr : lineReport Buffer.device (x.registryOf g) f.layout (x.moment f) r u with
    | ok v =>
      rw [hr] at hone
      simp only [Prod.mk.injEq] at hone
      exact ⟨_, Prod.ext hone.1 rfl, settleLines_bearings s _ v x, hone.2.1 ▸ get_settleLines hin _ v⟩
    | error e =>
      rw [hr] at hone
      simp only [Prod.mk.injEq] at hone
      exact ⟨x, Prod.ext hone.1 rfl, rfl, hone.2.1 ▸ ⟨hin, hs⟩⟩
  | registry g' a => exact hchange rfl rfl rfl
  | clock c a => exact hchange rfl rfl rfl
  | wall time => exact hchange rfl rfl rfl

/-- So it does along a run. -/
theorem attempts_of_hasLines {s : Ref Sink} {f : Formatter} {g : Option (Ref Registry)} :
    ∀ (ts : List Turn) {u : Tally Buffer} {x : Facility}, x.HasLines s f g u →
      ∃ y, Act.attempts (take s) ts x = (.done (replies f g ts x), y) ∧
        y.HasLines s f g (u.deliverAll Buffer.device (lines f g ts x))
  | [], _, x, hx => ⟨x, rfl, hx⟩
  | t :: ts, u, x, hx => by
    obtain ⟨y, hy, hbearings, hlines⟩ := take_of_hasLines hx t
    obtain ⟨z, hz, hrest⟩ := attempts_of_hasLines ts hlines
    rw [replies_of_bearings f g ts hbearings] at hz
    rw [lines_of_bearings hbearings, ← Tally.deliverAll_append, ← lines_cons] at hrest
    refine ⟨z, ?_, hrest⟩
    rw [Act.attempts_cons, hy, replies]
    rcases reply f g t x with m | ⟨⟩ <;> simp only [Outcome.ofExcept, Act.map, hz] <;> rfl

/-! ### Any device -/

/-- **A line sink hands over every line once, and counts what fails.** Take any device, and let
records be reported to a line sink that writes to it, while registries, clocks and the time of day
change.

The device gets the lines of the records that the registry admits, as they are made at the moments of
their reports, in this order: there is one conversation for each line, the device hears nothing else, and
listening in changes nothing. A conversation follows the rule of deliveries; the device is told to pass
on once if it took the whole line, and else not at all. What is counted are the lines in whose
conversation a call failed; to take nothing at all is to fail. If none fails, then nothing is counted,
and the device took exactly the lines, however little it took at a time.

A record that is not admitted, or whose line cannot be made, could as well never have been reported:
the run ends in the same state, and the other reports are answered alike.

A line sink of a facility does what one does that stands beside it and writes to a buffer. -/
theorem lines_eq_handovers (d : Device δ) (f : Formatter) (g : Option (Ref Registry))
    (turns : List Turn) (u : Tally δ) (x : Facility) :
    (∃ (hs : List Handover) (v : Tally δ), hs.map Handover.bytes = lines f g turns x ∧
      Act.attempts (takeLine d f g) turns (u, x) =
        (.done (replies f g turns x), (v, around turns x)) ∧
      Act.attempts (takeLine d.overheard f g) turns (⟨(u.device, []), u.failures⟩, x) =
        (.done (replies f g turns x),
          (⟨(v.device, hs.flatMap Handover.said), v.failures⟩, around turns x)) ∧
      v.failures = u.failures + hs.countP Handover.failed ∧
      (∀ h ∈ hs, Delivery h.bytes h.said h.outcome ∧
        (h.failed = true ↔ ∃ e ∈ h.said, e.Fails) ∧
        h.said.countP Exchange.isFlush =
          if h.said.flatMap Exchange.taken = h.bytes then 1 else 0) ∧
      ((∀ e ∈ hs.flatMap Handover.said, ¬ e.Fails) → v.failures = u.failures ∧
        (hs.flatMap Handover.said).flatMap Exchange.taken = (lines f g turns x).flatten)) ∧
    (∀ (past : List Turn) (r : Record) (rest : List Turn),
      (((around past x).registryOf g).admits r = true →
        ∃ e, f.layout.render ((around past x).moment f) r = .error e) →
      ∃ before after final, before.length = past.length ∧
        Act.attempts (takeLine d f g) (past ++ .report r :: rest) (u, x) =
          (.done (before ++ reply f g (.report r) (around past x) :: after), final) ∧
        Act.attempts (takeLine d f g) (past ++ rest) (u, x) = (.done (before ++ after), final)) ∧
    ∀ s v, x.HasLines s f g v → ∃ y,
      Act.attempts (take s) turns x = (.done (replies f g turns x), y) ∧
      y.HasLines s f g (Act.attempts (takeLine Buffer.device f g) turns (v, x)).2.1 := by
  refine ⟨?_, fun past r rest h => ?_, fun s v hx => ?_⟩
  · obtain ⟨hs, hbytes, hcount, hheard⟩ := Tally.deliverAll_overheard d (lines f g turns x) u []
    refine ⟨hs, _, hbytes, attempts_takeLine d f g turns u x, ?_, hcount,
      fun h _ => ⟨h.delivery, h.failed_iff, h.delivery.countP_isFlush⟩, fun hfails => ?_⟩
    · rw [attempts_takeLine, hheard, List.nil_append]
    · obtain ⟨hnone, htaken⟩ := Handover.taken_of_not_fails hfails
      refine ⟨by rw [hcount, hnone, Nat.add_zero], ?_⟩
      rw [htaken, ← hbytes, List.flatMap_def]
  · have hlines : lines f g (past ++ .report r :: rest) x = lines f g (past ++ rest) x := by
      rw [lines_append, lines_cons, lines_of_report_eq_nil h, List.nil_append, turned, lines_append]
    have haround : around (past ++ .report r :: rest) x = around (past ++ rest) x := by
      simp only [around, List.foldl_append, List.foldl_cons, turned]
    refine ⟨replies f g past x, replies f g rest (around past x),
      (u.deliverAll d (lines f g (past ++ rest) x), around (past ++ rest) x),
      length_replies f g past x, ?_, ?_⟩
    · rw [attempts_takeLine, hlines, haround, replies_append, replies, turned]
    · rw [attempts_takeLine, replies_append]
  · obtain ⟨y, hy, hlines⟩ := attempts_of_hasLines turns hx
    exact ⟨y, hy, by rwa [attempts_takeLine]⟩

/-- A record that is not admitted before the registry is turned up, and three lines: one that is taken in
two parts, one that is given up after two bytes, and one that is taken and not passed on. A buffer that
takes two bytes at a time takes all of them. -/
theorem lines_eq_handovers_on_a_failing_device :
    let d : Device (List (Except Fault Nat)) :=
      ⟨fun bs as => (as.headD (.ok bs.length), as.tail),
        fun as => ((as.headD (.ok 0)).map fun _ => (), as.tail)⟩
    let answers : List (Except Fault Nat) :=
      [.ok 3, .ok 12, .ok 0, .ok 2, .error .diskFull, .ok 16, .error .deviceGone]
    let f : Formatter := ⟨⟨0, false, true, false, false, false⟩, .clock ⟨0⟩, none⟩
    let b : Tally Buffer := ⟨⟨#[], 2, false, false⟩, 0⟩
    let x : Facility := { Facility.start .nobody ⟨[]⟩ "" none with
      clocks := ⟨#[Clock.start]⟩
      sinks := ⟨#[.lines ⟨f, none, b⟩]⟩ }
    let told : Record := ⟨.info, "bus", "idle", .medium, ⟨"bus", 1⟩⟩
    let warned : Record := ⟨.warning, "bus", "late", .medium, ⟨"bus", 2⟩⟩
    let past : List Turn := [.report warned]
    let rest : List Turn :=
      [.registry none (.setLevel .info), .clock ⟨0⟩ (.advance 5), .report told, .report warned]
    let out := [Text.bytes "[0.000 s] late\n", Text.bytes "[5.000 ns] idle\n",
      Text.bytes "[5.000 ns] late\n"]
    lines f none (past ++ .report told :: rest) x = out ∧
      ((around past x).registryOf none).admits told = false ∧ x.HasLines ⟨0⟩ f none b ∧
      (∃ (hs : List Handover) (v : Tally (List (Except Fault Nat))), hs.map Handover.bytes = out ∧
        Act.attempts (takeLine d f none) (past ++ .report told :: rest) (⟨answers, 0⟩, x) =
          (.done (List.replicate 6 (.ok ())), (v, around (past ++ .report told :: rest) x)) ∧
        v.failures = 0 + hs.countP Handover.failed ∧ v.failures = 2) ∧
      (∃ before after final, before.length = 1 ∧
        Act.attempts (takeLine d f none) (past ++ .report told :: rest) (⟨answers, 0⟩, x) =
          (.done (before ++ .ok () :: after), final) ∧
        Act.attempts (takeLine d f none) (past ++ rest) (⟨answers, 0⟩, x) =
          (.done (before ++ after), final)) ∧
      ∃ (hs : List Handover) (v : Tally Buffer) (y : Facility),
        (∀ e ∈ hs.flatMap Handover.said, ¬ e.Fails) ∧ v.failures = 0 ∧
        (hs.flatMap Handover.said).flatMap Exchange.taken = out.flatten ∧
        Act.attempts (take ⟨0⟩) (past ++ .report told :: rest) x =
          (.done (List.replicate 6 (.ok ())), y) ∧ y.HasLines ⟨0⟩ f none v := by
  intro d answers f b x told warned past rest out
  have hlines : lines f none (past ++ .report told :: rest) x = out := by decide +kernel
  have hreplies : replies f none (past ++ .report told :: rest) x = List.replicate 6 (.ok ()) := rfl
  have hadmits : ((around past x).registryOf none).admits told = false := by decide
  have hhas : x.HasLines ⟨0⟩ f none b := ⟨by decide, rfl⟩
  obtain ⟨⟨hs, v, hbytes, hrun, -, hcount, -⟩, hunseen, -⟩ :=
    lines_eq_handovers d f none (past ++ .report told :: rest) ⟨answers, 0⟩ x
  obtain ⟨⟨hs', w, -, hrun', hheard, -, -, hnone⟩, -, hsinks⟩ :=
    lines_eq_handovers Buffer.device f none (past ++ .report told :: rest) b x
  obtain ⟨y, hy, hyw⟩ := hsinks ⟨0⟩ b hhas
  -- what the buffer answers is seen by running it
  have hsaid : ∀ e ∈ hs'.flatMap Handover.said, ¬ e.Fails := by
    have hlog := congrArg (fun r => r.2.1.device.2) hheard
    rw [← show _ = hs'.flatMap Handover.said from hlog]
    decide +kernel
  have htwo : v.failures = 2 := by
    rw [← show _ = v.failures from congrArg (fun r => r.2.1.failures) hrun]
    decide +kernel
  rw [hreplies] at hrun hy
  rw [hlines] at hbytes hnone
  rw [hrun'] at hyw
  refine ⟨hlines, hadmits, hhas, ⟨hs, v, hbytes, hrun, hcount, htwo⟩,
    hunseen past told rest fun h => absurd h (by simp [hadmits]), hs', w, y, hsaid, (hnone hsaid).1,
    (hnone hsaid).2, hy, hyw⟩

end Facility

end Logbook
