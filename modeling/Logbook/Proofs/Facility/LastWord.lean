/-
# The last word on a fatal record

An event sink has the last word on fatal records: it runs its hook, and then it may stop the process.
Every registry admits a fatal record, so only the filter can keep it from becoming an event. Where the
filter lets it pass, its event stands immediately before the last word; where the filter holds it back,
the last word comes alone, and nothing says why the process was stopped.

Key definitions: `Facility.Announced`.
Key theorems: `Facility.announced_trace`, `Facility.fatal_passed_iff_accepted`.
-/
import Logbook.Proofs.Facility.Trace

namespace Logbook.Facility

variable {k : EventSink}

/-- Only what the filter lets pass becomes an event. -/
theorem lets_of_event_mem_signals {q : Record} {t : Turn} {x : Facility}
    (h : .event q ∈ signals k t x) : k.lets q = true := by
  cases t with
  | report r =>
    have hword : .event q ∉ lastWord k r := by
      unfold lastWord
      split
      · split <;> split <;> simp
      · simp
    rw [signals, accepts_eq] at h
    rcases List.mem_append.mp h with h | h
    · split at h
      · next ha =>
        obtain rfl : q = r := by simpa using h
        exact (Bool.and_eq_true_iff.mp ha).1
      · exact absurd h List.not_mem_nil
    · exact absurd h hword
  | _ => simp [signals] at h

theorem lets_of_event_mem_trace {q : Record} : ∀ (ts : List Turn) {x : Facility},
    .event q ∈ trace k ts x → k.lets q = true
  | [], _, h => absurd h List.not_mem_nil
  | t :: ts, x, h => by
    rw [trace] at h
    rcases List.mem_append.mp h with h | h
    · exact lets_of_event_mem_signals h
    · split at h
      · exact absurd h List.not_mem_nil
      · exact lets_of_event_mem_trace ts h

/-- The registry admits every fatal record, so that the filter decides alone. -/
theorem signals_of_fatal {r : Record} (hr : r.severity = .fatal) (k : EventSink) (x : Facility) :
    signals k (.report r) x = (if k.lets r then [.event r] else []) ++
      ((if k.hook.isSome then [.hook r] else []) ++ if k.action = .stop then [.stop r] else []) := by
  have hadmits : (x.registryOf k.registry).admits r = true := by simp [Registry.admits, hr]
  rw [signals, accepts_eq, lastWord, hadmits, Bool.and_true, if_pos hr]

theorem signals_of_not_fatal {r : Record} (hr : r.severity ≠ .fatal) (k : EventSink) (x : Facility) :
    signals k (.report r) x = if x.accepts k r then [.event r] else [] := by
  rw [signals, lastWord, if_neg hr, List.append_nil]

/-- Signals of a kind are there for fatal records only, and each stands right behind its lead if the
filter lets the record pass. -/
def Announced (k : EventSink) (kind : Record → Signal) (lead : Record → List Signal)
    (as : List Signal) : Prop :=
  ∀ before r after, as = before ++ kind r :: after →
    r.severity = .fatal ∧ (k.lets r = true → ∃ past, before = past ++ lead r)

/-- Where an item of two lists stands, one behind the other. -/
theorem cut_append {α : Type} {as bs before after : List α} {a : α}
    (h : as ++ bs = before ++ a :: after) :
    (∃ rest, as = before ++ a :: rest) ∨ ∃ past, before = as ++ past ∧ bs = past ++ a :: after := by
  rcases List.append_eq_append_iff.mp h with ⟨past, hbefore, hbs⟩ | ⟨rest, has, hrest⟩
  · exact .inr ⟨past, hbefore, hbs⟩
  · rcases List.cons_eq_append_iff.mp hrest with ⟨rfl, hbs⟩ | ⟨rest, rfl, -⟩
    · exact .inr ⟨[], by simpa using has.symm, by simpa using hbs⟩
    · exact .inl ⟨rest, has⟩

section

variable {kind : Record → Signal} {lead : Record → List Signal}

theorem Announced.append {as bs : List Signal} (ha : Announced k kind lead as)
    (hb : Announced k kind lead bs) : Announced k kind lead (as ++ bs) := by
  intro before r after h
  rcases cut_append h with ⟨rest, has⟩ | ⟨past, rfl, hbs⟩
  · exact ha before r rest has
  · obtain ⟨hfatal, hlead⟩ := hb past r after hbs
    refine ⟨hfatal, fun hl => ?_⟩
    obtain ⟨past, rfl⟩ := hlead hl
    exact ⟨as ++ past, (List.append_assoc ..).symm⟩

theorem announced_of_notMem {as : List Signal} (h : ∀ r, kind r ∉ as) : Announced k kind lead as :=
  fun _ r _ has => absurd (has ▸ List.mem_append_right _ List.mem_cons_self) (h r)

theorem announced_of_lead {r : Record} {pre post : List Signal} (hr : r.severity = .fatal)
    (hkind : ∀ q, kind q = kind r → q = r) (hpre : ∀ q, kind q ∉ pre) (hpost : ∀ q, kind q ∉ post)
    (hlead : k.lets r = true → ∃ past, pre = past ++ lead r) :
    Announced k kind lead (pre ++ kind r :: post) := by
  intro before q after h
  rcases cut_append h with ⟨rest, has⟩ | ⟨past, rfl, hrest⟩
  · exact absurd (has ▸ List.mem_append_right _ List.mem_cons_self) (hpre q)
  · rcases List.cons_eq_append_iff.mp hrest with ⟨rfl, hcons⟩ | ⟨past, rfl, has⟩
    · obtain rfl := hkind q (List.cons.inj hcons).1
      exact ⟨hr, by simpa using hlead⟩
    · exact absurd (has ▸ List.mem_append_right _ List.mem_cons_self) (hpost q)

/-- A whole trace is as announced as its single turns. -/
theorem announced_trace (hsignals : ∀ t x, Announced k kind lead (signals k t x)) :
    ∀ (ts : List Turn) (x : Facility), Announced k kind lead (trace k ts x)
  | [], _ => announced_of_notMem fun _ => List.not_mem_nil
  | t :: ts, x => by
    rw [trace]
    refine (hsignals t x).append ?_
    split
    · exact announced_of_notMem fun _ => List.not_mem_nil
    · exact announced_trace hsignals ts _

end

/-- The hook is run right behind the event. -/
theorem announced_hook (k : EventSink) (t : Turn) (x : Facility) :
    Announced k .hook (fun q => [.event q]) (signals k t x) := by
  cases t with
  | report r =>
    by_cases hr : r.severity = .fatal
    · rw [signals_of_fatal hr]
      by_cases hk : k.hook.isSome = true
      · rw [if_pos hk]
        refine announced_of_lead hr (by simp) (fun q => ?_) (fun q => ?_) fun hl => ⟨[], by simp [hl]⟩
        · split <;> simp
        · split <;> simp
      · refine announced_of_notMem fun q => ?_
        rw [if_neg hk]
        split <;> split <;> simp
    · rw [signals_of_not_fatal hr]
      refine announced_of_notMem fun q => ?_
      split <;> simp
  | _ => exact announced_of_notMem fun q => by simp [signals]

/-- The process is stopped right behind the event, or the call of the hook that follows it. -/
theorem announced_stop (k : EventSink) (t : Turn) (x : Facility) :
    Announced k .stop (fun q => .event q :: if k.hook.isSome then [.hook q] else [])
      (signals k t x) := by
  cases t with
  | report r =>
    by_cases hr : r.severity = .fatal
    · rw [signals_of_fatal hr, ← List.append_assoc]
      by_cases hk : k.action = .stop
      · rw [if_pos hk]
        refine announced_of_lead hr (by simp) (fun q => ?_) (by simp) fun hl => ⟨[], by simp [hl]⟩
        split <;> split <;> simp
      · refine announced_of_notMem fun q => ?_
        rw [if_neg hk]
        split <;> split <;> simp
    · rw [signals_of_not_fatal hr]
      refine announced_of_notMem fun q => ?_
      split <;> simp
  | _ => exact announced_of_notMem fun q => by simp [signals]

/-- **The hook and the end of the process follow the event exactly if the filter lets it pass.** Let
records be reported to an event sink, with any registry, any filter, any hook and any action, while
registries, clocks and the time of day change. The run is its trace. In the trace the hook is run and
the process is stopped for fatal records only. If the filter lets such a record pass, then it became
an event immediately before, whatever the registry says. If the filter holds it back, then the hook is
run and the process is stopped all the same, and nowhere in the trace is there an event of the record. -/
theorem fatal_passed_iff_accepted (s : Ref Sink) (k : EventSink) (x : Facility) (turns : List Turn)
    (hx : x.HasEvents s k) :
    Act.each (take s) turns x = Act.each (Signal.perform s) (trace k turns x) x ∧
    (∀ before r after, trace k turns x = before ++ .hook r :: after → r.severity = .fatal ∧
      if k.lets r then ∃ past, before = past ++ [.event r] else .event r ∉ trace k turns x) ∧
    (∀ before r after, trace k turns x = before ++ .stop r :: after → r.severity = .fatal ∧
      if k.lets r then ∃ past, before = past ++ .event r :: if k.hook.isSome then [.hook r] else []
      else .event r ∉ trace k turns x) ∧
    ∀ past r rest, turns = past ++ .report r :: rest → r.severity = .fatal →
      (∀ q, .stop q ∉ trace k past x) → ∃ after, trace k turns x = trace k past x ++
        (if k.lets r then [.event r] else []) ++ (if k.hook.isSome then [.hook r] else []) ++
          (if k.action = .stop then [.stop r] else []) ++ after := by
  have hunseen (r : Record) (hl : ¬ k.lets r = true) : .event r ∉ trace k turns x :=
    fun h => hl (lets_of_event_mem_trace turns h)
  refine ⟨each_take turns hx, fun before r after h => ?_, fun before r after h => ?_, ?_⟩
  · obtain ⟨hfatal, hevent⟩ := announced_trace (announced_hook k) turns x before r after h
    refine ⟨hfatal, ?_⟩
    split
    · next hl => exact hevent hl
    · next hl => exact hunseen r hl
  · obtain ⟨hfatal, hevent⟩ := announced_trace (announced_stop k) turns x before r after h
    refine ⟨hfatal, ?_⟩
    split
    · next hl => exact hevent hl
    · next hl => exact hunseen r hl
  · rintro past r rest rfl hr hgoes
    refine ⟨if Turn.isFatal (.report r) = true ∧ k.action = .stop then []
      else trace k rest (around past x), ?_⟩
    rw [trace_append past _ x hgoes, trace, signals_of_fatal hr, turned]
    simp only [List.append_assoc]

/-- A fatal record that the filter lets pass, behind a record that is not admitted. -/
theorem fatal_passed_iff_accepted_at_the_end :
    let k : EventSink := ⟨none, some fun c => c = "bus", some .count, 0, .stop⟩
    let x : Facility :=
      { Facility.start .recorder ⟨[]⟩ "" none with sinks := ⟨#[.events k]⟩ }
    let told : Record := ⟨.info, "bus", "idle", .medium, ⟨"bus", 1⟩⟩
    let lost : Record := ⟨.fatal, "bus", "lost", .medium, ⟨"bus", 2⟩⟩
    let turns : List Turn := [.report told, .report lost, .report told]
    x.HasEvents ⟨0⟩ k ∧ trace k turns x = [.event lost] ++ .hook lost :: [.stop lost] ∧
      (∃ past, [Signal.event lost] = past ++ [.event lost]) ∧
      (∃ past, [Signal.event lost, .hook lost] = past ++ [.event lost, .hook lost]) ∧
      (∃ after, trace k turns x = trace k [.report told] x ++ [.event lost] ++ [.hook lost] ++
        [.stop lost] ++ after) ∧
      ∃ y, Act.each (take ⟨0⟩) turns x = (.aborted, y) ∧
        y.journal = #[.event (.ofRecord lost), .hook ⟨0⟩] := by
  intro k x told lost turns
  have hx : x.HasEvents ⟨0⟩ k := ⟨by decide, 0, rfl⟩
  have htrace : trace k turns x = [.event lost] ++ .hook lost :: [.stop lost] := rfl
  obtain ⟨hrun, hhook, hstop, hreport⟩ := fatal_passed_iff_accepted ⟨0⟩ k x turns hx
  refine ⟨hx, htrace, (hhook _ _ _ htrace).2, (hstop [.event lost, .hook lost] lost [] htrace).2,
    hreport [.report told] lost [.report told] rfl rfl fun q => List.not_mem_nil, ?_⟩
  rw [hrun]
  exact ⟨_, rfl, rfl⟩

/-- A fatal record that every registry admits and that the filter holds back: the hook is run and the
process is stopped, and no event says why. -/
theorem fatal_stops_without_an_event :
    let k : EventSink := ⟨none, some fun c => c = "bus", some .count, 0, .stop⟩
    let x : Facility :=
      { Facility.start .recorder ⟨[]⟩ "" none with sinks := ⟨#[.events k]⟩ }
    let gone : Record := ⟨.fatal, "dma", "gone", .medium, ⟨"dma", 3⟩⟩
    (x.registryOf k.registry).admits gone = true ∧
      trace k [.report gone] x = [] ++ .hook gone :: [.stop gone] ∧
      (¬ ∃ past, ([] : List Signal) = past ++ [.event gone]) ∧
      ∃ y, Act.each (take ⟨0⟩) [.report gone] x = (.aborted, y) ∧ y.journal = #[.hook ⟨0⟩] :=
  ⟨rfl, rfl, by simp, _, rfl, rfl⟩

end Logbook.Facility
