/-
# The trace of an event sink

What an event sink does about a record is decided in two steps that know nothing of each other. Whether
the record becomes an event depends on the filter and the registry; whether the hook is run and the
process is stopped depends only on whether the record is fatal. A run is therefore the same as
performing its trace (`each_take`): turn by turn the event, the call of the hook, and the end. With a
recorder, which takes every event, the journal shows the trace (`journal_eq_trace`).

Key definitions: `Signal`, `Facility.signals`, `Facility.trace`, `Signal.perform`.
Key theorems: `Facility.each_take`, `Facility.trace_append`, `Facility.journal_eq_trace`.
-/
import Logbook.Proofs.Facility.Memory
import Logbook.Proofs.Facility.Paths

namespace Logbook

/-- What happens at an event sink or around it. -/
inductive Signal where
  /-- A record becomes an event. -/
  | event (r : Record)
  /-- The hook is run for a record. -/
  | hook (r : Record)
  /-- The process is stopped for a record. -/
  | stop (r : Record)
  | change (t : Turn)

/-- A call of the hook. -/
def Signal.isHook : Signal → Bool
  | .hook _ => true
  | _ => false

/-- A report of a fatal record. -/
def Turn.isFatal : Turn → Bool
  | .report r => r.severity = .fatal
  | _ => false

/-- Whether the filter of an event sink lets a record pass. -/
def EventSink.lets (k : EventSink) (r : Record) : Bool := k.filter.all fun p => p r.category

namespace Facility

theorem accepts_eq (x : Facility) (k : EventSink) (r : Record) :
    x.accepts k r = (k.lets r && (x.registryOf k.registry).admits r) := by
  unfold accepts EventSink.lets
  cases k.filter <;> rfl

/-- What an event sink does because a record is fatal. -/
def lastWord (k : EventSink) (r : Record) : List Signal :=
  if r.severity = .fatal then
    (if k.hook.isSome then [.hook r] else []) ++ if k.action = .stop then [.stop r] else []
  else []

/-- What happens at a turn. -/
def signals (k : EventSink) : Turn → Facility → List Signal
  | .report r, x => (if x.accepts k r then [.event r] else []) ++ lastWord k r
  | t, _ => [.change t]

/-- What happens along a run, up to the end of the process. -/
def trace (k : EventSink) : List Turn → Facility → List Signal
  | [], _ => []
  | t :: ts, x =>
    signals k t x ++ if t.isFatal = true ∧ k.action = .stop then [] else trace k ts (turned t x)

/-- Runs the hook of the event sink that stands somewhere. -/
def runHookAt (s : Ref Sink) (x : Facility) : Facility :=
  match x.sinks.get s with
  | .events k => x.runHook s k
  | _ => x

end Facility

/-- Lets happen what happens at an event sink. -/
def Signal.perform (s : Ref Sink) : Signal → Act Facility Unit
  | .event r => Facility.carry (.ofRecord r)
  | .hook _ => Act.modify (Facility.runHookAt s)
  | .stop _ => Act.abort
  | .change t => Act.modify (Facility.turned t)

/-- What is noted when something happens at an event sink and a recorder takes events. -/
def Signal.arrivals (s : Ref Sink) (k : EventSink) : Signal → List Arrival
  | .event r => [.event (.ofRecord r)]
  | .hook _ => if k.hook = some .count then [.hook s] else []
  | _ => []

namespace Facility

/-! ### A run is its trace -/

/-- An event sink stands somewhere, whose hook has been run any number of times. -/
def HasEvents (s : Ref Sink) (k : EventSink) (x : Facility) : Prop :=
  s.index < x.sinks.items.size ∧ ∃ n, x.sinks.get s = .events { k with calls := n }

variable {s : Ref Sink} {k : EventSink} {x : Facility}

theorem HasEvents.of_sinks {y : Facility} (hx : x.HasEvents s k) (h : y.sinks = x.sinks) :
    y.HasEvents s k := by
  rwa [HasEvents, h]

/-- The sink stays as it is, but for the number of the calls of its hook. -/
theorem HasEvents.perform (a : Signal) (x : Facility) (hx : x.HasEvents s k) :
    (a.perform s x).2.HasEvents s k := by
  cases a with
  | event r => exact hx.of_sinks (carry_sinks _ x)
  | hook r =>
    obtain ⟨hin, n, hn⟩ := hx
    simp only [Signal.perform, Act.modify, runHookAt, hn, runHook]
    split
    · refine ⟨by simpa [note, putSink, Table.put] using hin, n + 1, ?_⟩
      simp only [note, putSink, Table.get_put hin]
    · exact ⟨hin, n, hn⟩
    · exact ⟨hin, n, hn⟩
  | stop r => exact hx
  | change t => exact hx.of_sinks (turned_ends t x).1

/-- Performing the last word on a record is what the sink does when it is fatal. -/
theorem each_lastWord {n : Nat} (hn : x.sinks.get s = .events { k with calls := n }) (r : Record) :
    conclude s { k with calls := n } r x = Act.each (Signal.perform s) (lastWord k r) x := by
  have hhook : Act.each (Signal.perform s) (if k.hook.isSome then [.hook r] else []) x =
      (.done (), x.runHook s { k with calls := n }) := by
    by_cases hk : k.hook.isSome = true
    · rw [if_pos hk, Act.each_singleton]
      simp only [Signal.perform, Act.modify, runHookAt, hn]
    · have hnone : k.hook = none := by simpa using hk
      rw [if_neg hk]
      simp only [runHook, hnone]
      rfl
  have hstop (y : Facility) :
      (if k.action = .stop then Act.abort else pure () : Act Facility Unit) y =
        Act.each (Signal.perform s) (if k.action = .stop then [.stop r] else []) y := by
    split
    · rw [Act.each_singleton]
      rfl
    · rfl
  unfold conclude lastWord
  split
  · rw [Act.modify_bind, Act.each_append, Act.bind_of_done _ hhook, hstop]
  · rfl

/-- A report to an event sink is what the sink does about the record. -/
theorem report_eq_each_signals (hx : x.HasEvents s k) (r : Record) :
    report s r x = Act.each (Signal.perform s) (signals k (.report r) x) x := by
  obtain ⟨-, n, hn⟩ := hx
  have haccepts : x.accepts { k with calls := n } r = x.accepts k r := rfl
  simp only [report, hn, pass_run, haccepts, signals]
  by_cases ha : x.accepts k r = true
  · rw [if_pos ha, if_pos ha, Act.each_append, Act.each_singleton, Act.bind_run, Act.bind_run,
      Signal.perform]
    -- whoever takes the event leaves the sinks alone, so the hook is still the one of this sink
    have hsinks := carry_sinks (.ofRecord r) x
    rcases hc : carry (.ofRecord r) x with ⟨_ | _ | _, y⟩
    · rw [hc] at hsinks
      exact each_lastWord (by rw [hsinks, hn]) r
    · rfl
    · rfl
  · rw [if_neg ha, if_neg ha, List.nil_append]
    exact each_lastWord hn r

theorem take_eq_each_signals (hx : x.HasEvents s k) (t : Turn) :
    take s t x = Act.each (Signal.perform s) (signals k t x) x := by
  cases t with
  | report r => exact report_eq_each_signals hx r
  | registry g a => rfl
  | clock c a => rfl
  | wall time => rfl

theorem take_bearings (s : Ref Sink) (t : Turn) (x : Facility) :
    (take s t x).2.bearings = (turned t x).bearings := by
  cases t with
  | report r => exact report_keeps s r x
  | registry g a => rfl
  | clock c a => rfl
  | wall time => rfl

/-- A turn that ends the process does so last. -/
theorem exists_stop {t : Turn} (ht : t.isFatal = true) (hk : k.action = .stop) (x : Facility) :
    ∃ as r, signals k t x = as ++ [.stop r] := by
  cases t with
  | report r =>
    have hr : r.severity = .fatal := of_decide_eq_true ht
    refine ⟨(if x.accepts k r then [.event r] else []) ++ if k.hook.isSome then [.hook r] else [], r, ?_⟩
    rw [signals, lastWord, if_pos hr, if_pos hk, List.append_assoc]
  | registry g a => exact absurd ht Bool.false_ne_true
  | clock c a => exact absurd ht Bool.false_ne_true
  | wall time => exact absurd ht Bool.false_ne_true

/-- What ends the process does not go on. -/
theorem each_stop_bind (as : List Signal) (r : Record) (f : Unit → Act Facility Unit) (x : Facility) :
    (Act.each (Signal.perform s) (as ++ [.stop r]) >>= f) x =
      Act.each (Signal.perform s) (as ++ [.stop r]) x := by
  rw [Act.each_append, Act.bind_run, Act.bind_run]
  rcases Act.each (Signal.perform s) as x with ⟨_ | _ | _, y⟩ <;> rfl

theorem signals_of_bearings {y : Facility} (h : x.bearings = y.bearings) (k : EventSink) (t : Turn) :
    signals k t x = signals k t y := by
  cases t with
  | report r => rw [signals, signals, accepts_eq, accepts_eq, registryOf_bearings h]
  | registry g a => rfl
  | clock c a => rfl
  | wall time => rfl

theorem trace_of_bearings (k : EventSink) : ∀ (ts : List Turn) {x y : Facility},
    x.bearings = y.bearings → trace k ts x = trace k ts y
  | [], _, _, _ => rfl
  | t :: ts, _, _, h => by
    rw [trace, trace, signals_of_bearings h, trace_of_bearings k ts (turned_bearings h t)]

/-- A run of an event sink is its trace. -/
theorem each_take : ∀ (ts : List Turn) {x : Facility}, x.HasEvents s k →
    Act.each (take s) ts x = Act.each (Signal.perform s) (trace k ts x) x
  | [], _, _ => rfl
  | t :: ts, x, hx => by
    have hturn := take_eq_each_signals hx t
    rw [Act.each_cons, Act.bind_congr _ hturn, trace]
    split
    · -- the end of the process comes last, so the turns behind it are not taken
      next hends =>
      obtain ⟨as, r, hsignals⟩ := exists_stop hends.1 hends.2 x
      rw [List.append_nil, hsignals, each_stop_bind]
    · have hevents := Act.each_preserves (f := Signal.perform s) HasEvents.perform (signals k t x) hx
      have hkeep := take_bearings s t x
      rw [hturn] at hkeep
      rw [Act.each_append, Act.bind_run, Act.bind_run]
      generalize Act.each (Signal.perform s) (signals k t x) x = c at hevents hkeep ⊢
      rcases c with ⟨_ | _ | _, y⟩
      · exact (each_take ts hevents).trans (by rw [trace_of_bearings k ts hkeep])
      · rfl
      · rfl

/-- A run that does not end the process can be cut. -/
theorem trace_append : ∀ (ts us : List Turn) (x : Facility), (∀ q, .stop q ∉ trace k ts x) →
    trace k (ts ++ us) x = trace k ts x ++ trace k us (around ts x)
  | [], _, _, _ => rfl
  | t :: ts, us, x, h => by
    have hgoes : ¬ (t.isFatal = true ∧ k.action = .stop) := by
      rintro ⟨ht, hk⟩
      obtain ⟨as, r, hsignals⟩ := exists_stop ht hk x
      exact h r (List.mem_append_left _ (by simp [hsignals]))
    rw [trace, if_neg hgoes] at h
    rw [List.cons_append, trace, trace, if_neg hgoes, if_neg hgoes,
      trace_append ts us _ fun q hq => h q (List.mem_append_right _ hq), List.append_assoc]
    rfl

/-! ### What a recorder keeps -/

/-- What happens short of the end returns and is noted. -/
theorem perform_recorded (hx : x.HasEvents s k) (hrec : x.subscriber = .recorder) {a : Signal}
    (ha : ∀ r, a ≠ .stop r) :
    ∃ y, a.perform s x = (.done (), y) ∧ y.HasEvents s k ∧ y.subscriber = .recorder ∧
      y.journal = x.journal ++ a.arrivals s k := by
  have hevents := hx.perform a x
  cases a with
  | event r =>
    rw [Signal.perform] at hevents ⊢
    simp only [carry, hrec] at hevents ⊢
    exact ⟨_, rfl, hevents, hrec, by simp [note, Signal.arrivals]⟩
  | hook r =>
    refine ⟨_, rfl, hevents, ?_⟩
    obtain ⟨-, n, hn⟩ := hx
    simp only [runHookAt, hn, runHook, Signal.arrivals]
    split
    · next hk => exact ⟨hrec, by simp [hk, note, putSink]⟩
    · next hk => exact ⟨hrec, by simp [hk, dismissWorker]⟩
    · next hk => exact ⟨hrec, by simp [hk]⟩
  | stop r => exact absurd rfl (ha r)
  | change t =>
    obtain ⟨-, hsubscriber, -⟩ := turned_ends t x
    refine ⟨_, rfl, hevents, hsubscriber.trans hrec, ?_⟩
    cases t with
    | registry g a => cases g <;> simp [turned, updateRegistry, Signal.arrivals]
    | _ => simp [turned, Signal.arrivals]

theorem each_perform_recorded : ∀ (as : List Signal) {x : Facility}, x.HasEvents s k →
    x.subscriber = .recorder → (∀ r, .stop r ∉ as) →
    ∃ y, Act.each (Signal.perform s) as x = (.done (), y) ∧
      y.journal = x.journal ++ as.flatMap (Signal.arrivals s k)
  | [], x, _, _, _ => ⟨x, rfl, by simp⟩
  | a :: as, x, hx, hrec, hstop => by
    obtain ⟨y, hy, hevents, hrec', hjournal⟩ :=
      perform_recorded hx hrec fun r h => hstop r (h ▸ List.mem_cons_self)
    obtain ⟨z, hz, hrest⟩ := each_perform_recorded as hevents hrec' fun r h =>
      hstop r (List.mem_cons_of_mem a h)
    refine ⟨z, by rw [Act.each_cons, Act.bind_of_done _ hy, hz], ?_⟩
    rw [hrest, hjournal, List.flatMap_cons]
    exact Array.ext' (by simp)

/-! ### Sinks that go on -/

/-- The last word of a sink that goes on is at most a call of its hook. -/
theorem lastWord_of_ignore (hk : k.action = .ignore) (r : Record) :
    lastWord k r = if r.severity = .fatal ∧ k.hook.isSome = true then [.hook r] else [] := by
  have hgo : k.action ≠ .stop := by simp [hk]
  unfold lastWord
  by_cases hr : r.severity = .fatal
  · simp only [hr, if_true, if_neg hgo, List.append_nil, true_and]
  · simp only [hr, if_false, false_and]

theorem trace_of_ignore (hk : k.action = .ignore) (t : Turn) (ts : List Turn) (x : Facility) :
    trace k (t :: ts) x = signals k t x ++ trace k ts (turned t x) := by
  rw [trace, if_neg (by simp [hk])]

theorem stop_notMem_trace (hk : k.action = .ignore) (q : Record) :
    ∀ (ts : List Turn) (x : Facility), .stop q ∉ trace k ts x
  | [], _ => List.not_mem_nil
  | t :: ts, x => by
    have hnow : .stop q ∉ signals k t x := by
      cases t with
      | report r =>
        rw [signals, lastWord_of_ignore hk]
        split <;> split <;> simp
      | _ => simp [signals]
    rw [trace_of_ignore hk]
    exact fun h => (List.mem_append.mp h).elim hnow (stop_notMem_trace hk q ts _)

theorem countP_isHook_trace (hk : k.action = .ignore) : ∀ (ts : List Turn) (x : Facility),
    (trace k ts x).countP Signal.isHook = if k.hook.isSome then ts.countP Turn.isFatal else 0
  | [], _ => by simp [trace]
  | t :: ts, x => by
    have hnow : (signals k t x).countP Signal.isHook =
        if t.isFatal = true ∧ k.hook.isSome = true then 1 else 0 := by
      cases t with
      | report r =>
        simp only [signals, lastWord_of_ignore hk, Turn.isFatal, decide_eq_true_eq]
        split <;> split <;> simp [Signal.isHook]
      | _ => simp [signals, Signal.isHook, Turn.isFatal]
    rw [trace_of_ignore hk, List.countP_append, hnow, countP_isHook_trace hk ts, List.countP_cons]
    by_cases ht : t.isFatal = true <;> by_cases hh : k.hook.isSome = true <;>
      simp [ht, hh, Nat.add_comm]

/-- **Record by record, first the event and then the hook.** Let records be reported to an event sink
that goes on after fatal ones, with any registry, any filter and any hook, while registries, clocks and
the time of day change. Whoever takes the events, the run is its trace, and a recorder, with which every
call returns, notes the trace as it is.

The trace has a part for each report, in the order of the reports. It consists of the event of the
record, exactly if the filter lets it pass and the registry admits it at that moment, and then of a call
of the hook, exactly if there is one and the record is fatal. So there are as many calls of the hook as
fatal records, passed on or not. An event has the level that its record travels at, and all six parts of
the record can be read off its fields. -/
theorem journal_eq_trace (s : Ref Sink) (k : EventSink) (x : Facility) (turns : List Turn)
    (hx : x.HasEvents s k) (hk : k.action = .ignore) :
    Act.each (take s) turns x = Act.each (Signal.perform s) (trace k turns x) x ∧
    (x.subscriber = .recorder → ∃ y, Act.each (take s) turns x = (.done (), y) ∧
      y.journal = x.journal ++ (trace k turns x).flatMap (Signal.arrivals s k)) ∧
    (∀ past r rest, turns = past ++ .report r :: rest →
      trace k turns x = trace k past x ++
        ((if k.lets r = true ∧ ((around past x).registryOf k.registry).admits r = true
            then [.event r] else []) ++
          if r.severity = .fatal ∧ k.hook.isSome = true then [.hook r] else []) ++
        trace k rest (around past x)) ∧
    ((trace k turns x).countP Signal.isHook =
      if k.hook.isSome then turns.countP Turn.isFatal else 0) ∧
    ∀ r, (Event.ofRecord r).level = r.eventLevel ∧ (Event.ofRecord r).record = r := by
  refine ⟨each_take turns hx, fun hrec => ?_, ?_, countP_isHook_trace hk turns x,
    fun r => ⟨rfl, Event.record_ofRecord r⟩⟩
  · rw [each_take turns hx]
    exact each_perform_recorded _ hx hrec fun r => stop_notMem_trace hk r turns x
  · rintro past r rest rfl
    rw [trace_append _ _ _ fun q => stop_notMem_trace hk q past x, trace_of_ignore hk, signals,
      lastWord_of_ignore hk, accepts_eq, turned, List.append_assoc, List.append_assoc]
    simp only [Bool.and_eq_true, List.append_assoc]

/-- A record that is not admitted before the registry is turned up, a fatal one that the filter lets pass,
one that it holds back, and the first one again. -/
theorem journal_eq_trace_while_turned_up :
    let k : EventSink := ⟨none, some fun c => c = "bus", some .count, 0, .ignore⟩
    let x : Facility :=
      { Facility.start .recorder ⟨[]⟩ "" none with sinks := ⟨#[.events k]⟩ }
    let told : Record := ⟨.info, "bus", "idle", .medium, ⟨"bus", 1⟩⟩
    let lost : Record := ⟨.fatal, "bus", "lost", .medium, ⟨"bus", 2⟩⟩
    let hidden : Record := ⟨.fatal, "dma", "gone", .medium, ⟨"dma", 3⟩⟩
    let past : List Turn := [.report told, .report lost]
    let rest : List Turn := [.registry none (.setLevel .info), .report told]
    x.HasEvents ⟨0⟩ k ∧ k.action = .ignore ∧ x.subscriber = .recorder ∧
      (∃ y, Act.each (take ⟨0⟩) (past ++ .report hidden :: rest) x = (.done (), y) ∧
        y.journal = #[.event (.ofRecord lost), .hook ⟨0⟩, .hook ⟨0⟩, .event (.ofRecord told)]) ∧
      trace k (past ++ .report hidden :: rest) x =
        trace k past x ++ [.hook hidden] ++ trace k rest (around past x) ∧
      (trace k (past ++ .report hidden :: rest) x).countP Signal.isHook = 2 := by
  intro k x told lost hidden past rest
  have hx : x.HasEvents ⟨0⟩ k := ⟨by decide, 0, rfl⟩
  obtain ⟨-, hrun, hparts, hcount, -⟩ :=
    journal_eq_trace ⟨0⟩ k x (past ++ .report hidden :: rest) hx rfl
  obtain ⟨y, hy, hjournal⟩ := hrun rfl
  exact ⟨hx, rfl, rfl, ⟨y, hy, hjournal⟩, hparts past hidden rest rfl, hcount⟩

end Facility

end Logbook
