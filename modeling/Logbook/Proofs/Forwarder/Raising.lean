/-
# A forwarder whose sink raises messages

A sink may raise a message at any record that it is handed, and whoever wrote to the forwarder may handle
the message and go on. Then what was cut up to that record has been handed over, the record itself with
it, the rest of the write is gone and nothing is pending. So a run of errands is as good as a history of
bytes and flushes in which the rests of the failed writes do not occur (`Told`): its segments are handed
to the sink in order, each one once if the gate is open at its cut and not at all otherwise.

The sink is any outlet that does not look into the forwarder's buffer. Through a stream the run is the
same: whoever comes next takes the stream's lock over from a message, with the forwarder as it stands.

Key definitions: `Forwarder.Told`, `Outlet.Apart`, `Writer.serveTo`.
Key theorems: `Forwarder.told_attempts`, `Forwarder.serve_of_raised`, `Writer.onStream_follows_serve`,
`Forwarder.segments_handed_once`.
-/
import Logbook.Proofs.Facility.Routing
import Logbook.Proofs.Stream.Moves

namespace Logbook

variable {σ τ : Type}

namespace Forwarder

/-! ### Errands of a forwarder -/

/-- What errands told a forwarder, given how they ended: all of one that returned, and of one that raised
a message a beginning that ends with a cut. -/
inductive Told : List Errand → Outcome (List (Except String (Except Fault Nat))) → List Tick → Prop
  | nil : Told [] (.done []) []
  | returned {e es o ts} : Told es o ts → Told (e :: es) (o.map (.ok (.ok e.size) :: ·)) (e.ticks ++ ts)
  | raised {e es o ts us t m} : us ++ [t] <+: e.ticks → t.Cuts → Told es o ts →
      Told (e :: es) (o.map (.error m :: ·)) (us ++ [t] ++ ts)
  | aborted {e es us t} : us ++ [t] <+: e.ticks → t.Cuts → Told (e :: es) .aborted (us ++ [t])

/-- What errands tell a forwarder. -/
theorem told_attempts (o : Outlet σ) (f : Forwarder) : ∀ (es : List Errand) (p : Heard × σ),
    ∃ ts, (Act.attempts (attend o f) es p).2.1.ticks = p.1.ticks ++ ts ∧
      Told es (Act.attempts (attend o f) es p).1 ts
  | [], p => ⟨[], (List.append_nil _).symm, .nil⟩
  | e :: es, (h, s) => by
    obtain ⟨us, hus, hpre, hall, hend⟩ := ticks_each_hearBy o f f.pending e.ticks h s
    have hmore {vs ts now : List Tick} (hnow : now = h.ticks ++ vs) :
        now ++ ts = h.ticks ++ (vs ++ ts) := by rw [hnow, List.append_assoc]
    rw [Act.attempts_cons]
    simp only [attend, Act.map]
    generalize Act.each (hearBy o f f.pending) e.ticks (h, s) = r at hus hall hend ⊢
    rcases r with ⟨_ | m | _, q⟩
    · obtain ⟨ts, hts, htold⟩ := told_attempts o f es q
      obtain rfl := hall rfl
      exact ⟨e.ticks ++ ts, hts.trans (hmore hus), .returned htold⟩
    · obtain ⟨ts, hts, htold⟩ := told_attempts o f es q
      obtain ⟨vs, t, rfl, ht⟩ := hend (by simp)
      exact ⟨vs ++ [t] ++ ts, hts.trans (hmore hus), .raised hpre ht htold⟩
    · obtain ⟨vs, t, rfl, ht⟩ := hend (by simp)
      exact ⟨vs ++ [t], hus, .aborted hpre ht⟩

/-- The record of a segment, if the gate is open. -/
theorem record?_cut (f : Forwarder) (segment : List UInt8) (l : Level) :
    (Deed.cut segment l).record? f = if f.isOpen l then some (f.record segment) else none := by
  simp [Deed.record?, isOpen, record_eq_reported]

/-- The records that were handed to an outlet are those of the segments that were cut while the gate was
open. -/
theorem hearBy_overheard (o : Outlet σ) (f : Forwarder) (held : List UInt8) (t : Tick)
    {p : Heard × (σ × List Record)}
    (hp : p.2.2 = p.1.cuts.filterMap fun c => (Deed.cut c.1 c.2).record? f) :
    (hearBy o.overheard f held t p).2.2.2 =
      (hearBy o.overheard f held t p).2.1.cuts.filterMap fun c => (Deed.cut c.1 c.2).record? f := by
  obtain ⟨h, s, heard⟩ := p
  simp only at hp
  subst hp
  simp only [hearBy]
  cases t.cut? (since held h.ticks) with
  | none => rfl
  | some segment =>
    simp only [emit, Outlet.overheard, List.filterMap_append, List.filterMap_cons, List.filterMap_nil,
      record?_cut]
    by_cases ho : f.isOpen (o.level f s) = true
    · rw [if_pos ho, if_pos ho]
    · rw [if_neg ho, if_neg ho, List.append_nil]

/-- Where the gate never closes, it was open at each cut. -/
theorem hearBy_open {o : Outlet σ} {f : Forwarder} (ho : ∀ s, f.isOpen (o.level f s) = true)
    (held : List UInt8) (t : Tick) {p : Heard × σ} (hp : ∀ c ∈ p.1.cuts, f.isOpen c.2 = true) :
    ∀ c ∈ (hearBy o f held t p).2.1.cuts, f.isOpen c.2 = true := by
  obtain ⟨h, s⟩ := p
  simp only [hearBy]
  cases t.cut? (since held h.ticks) with
  | none => exact hp
  | some segment =>
    intro c hc
    rcases List.mem_append.mp hc with hc | hc
    · exact hp c hc
    · rw [List.mem_singleton.mp hc]
      exact ho s

/-- Of segments that were all cut while the gate was open each one is a record. -/
theorem filterMap_record?_of_open {f : Forwarder} : ∀ {cuts : List (List UInt8 × Level)},
    (∀ c ∈ cuts, f.isOpen c.2 = true) →
      (cuts.filterMap fun c => (Deed.cut c.1 c.2).record? f) = (cuts.map Prod.fst).map f.record
  | [], _ => rfl
  | c :: cuts, h => by
    obtain ⟨hc, hcuts⟩ := List.forall_mem_cons.mp h
    simp only [List.filterMap_cons, record?_cut, hc, if_true, List.map_cons,
      ← filterMap_record?_of_open hcuts]

/-- What every hearing of a tick preserves, however it ends, errands preserve. -/
theorem attempts_attend_preserves {P : Heard × σ → Prop} {o : Outlet σ} {f : Forwarder}
    (h : ∀ t p, P p → P (hearBy o f f.pending t p).2) (es : List Errand) {p : Heard × σ} (hp : P p) :
    P (Act.attempts (attend o f) es p).2 := by
  have herrand (e : Errand) (q : Heard × σ) (hq : P q) : P (attend o f e q).2 :=
    Act.each_preserves h e.ticks hq
  exact Act.attempts_preserves herrand es hp

theorem steady_overheard {o : Outlet σ} (ho : o.Steady) : o.overheard.Steady := fun f held =>
  ⟨funext fun p => congrFun (ho f held).1 p.1,
    funext fun r => funext fun (s, heard) => by simp only [Outlet.overheard, (ho f held).2]⟩

theorem write_of_raised {o : Outlet σ} {bs : List UInt8} {f f' : Forwarder} {s s' : σ} {m : String}
    (h : write o bs (f, s) = (.raised m, (f', s'))) : f' = f.holding [] := by
  simp only [write] at h
  rcases hr : Act.each (emit o f) (cutLines f.pending bs).1 s with ⟨_ | _ | _, s₁⟩ <;> rw [hr] at h
  · simp at h
  · simp only [Prod.mk.injEq] at h
    exact h.2.1.symm
  · simp at h

theorem flush_of_raised {o : Outlet σ} {f f' : Forwarder} {s s' : σ} {m : String}
    (h : flush o (f, s) = (.raised m, (f', s'))) : f' = f.holding [] := by
  simp only [flush] at h
  split at h
  · simp at h
  · simp only [Prod.mk.injEq] at h
    exact h.2.1.symm

/-- A forwarder whose errand raised a message holds nothing, and to flush it afterwards does nothing. -/
theorem serve_of_raised {o : Outlet σ} {e : Errand} {f f' : Forwarder} {s s' : σ} {m : String}
    (h : serve o e (f, s) = (.raised m, (f', s'))) :
    f' = f.holding [] ∧ flush o (f', s') = (.done (), (f', s')) := by
  have hnothing : f' = f.holding [] := by
    cases e with
    | write bs => exact write_of_raised (Act.map_eq_raised.mp h)
    | writeAll bs => exact write_of_raised (Act.map_eq_raised.mp h)
    | flush => exact flush_of_raised (Act.map_eq_raised.mp h)
  exact ⟨hnothing, by rw [hnothing]; rfl⟩

/-! ### Through a stream -/

theorem serve_follows {view : τ → σ} {o : Outlet σ} {q : Outlet τ} (h : o.Follows view q) (e : Errand)
    (p : Forwarder × τ) : Act.Follows (Prod.map id view) (serve o e) (serve q e) p := by
  cases e with
  | write bs => exact (write_follows h bs p).map _
  | writeAll bs => exact (write_follows h bs p).map _
  | flush => exact (flush_follows h p).map _

/-- What every report preserves, however it ends, an errand preserves. -/
theorem serve_preserves {P : σ → Prop} {o : Outlet σ} (h : ∀ f r s, P s → P (o.report f r s).2)
    (e : Errand) (p : Forwarder × σ) (hp : P p.2) : P (serve o e p).2.2 := by
  obtain ⟨f, s⟩ := p
  have hemit (line : List UInt8) (s : σ) (hs : P s) : P (emit o f line s).2 := by
    rw [emit]
    split
    · exact h f _ s hs
    · exact hs
  have hwrite (bs : List UInt8) : P (write o bs (f, s)).2.2 := by
    have heach := Act.each_preserves (P := P) hemit (cutLines f.pending bs).1 hp
    simp only [write]
    generalize Act.each (emit o f) (cutLines f.pending bs).1 s = r at heach ⊢
    rcases r with ⟨_ | _ | _, s'⟩ <;> exact heach
  cases e with
  | write bs => exact hwrite bs
  | writeAll bs => exact hwrite bs
  | flush =>
    simp only [serve, Act.map, flush]
    split
    · exact hp
    · exact hemit f.pending s hp

end Forwarder

/-- An outlet keeps away from a stream whose lock is held while it reports: it neither looks nor puts
anything behind it, and the stream stays. -/
structure Outlet.Apart (o : Outlet Facility) (t : Ref Writer) : Prop where
  blind : ∀ w, o.Follows (Facility.putWriter t w) o
  stays : ∀ f r x, t.index < x.streams.items.size → t.index < (o.report f r x).2.streams.items.size

/-- The facility itself keeps away from its streams. -/
theorem Facility.apart_outlet (t : Ref Writer) : Facility.outlet.Apart t where
  blind w := ⟨fun _ _ => rfl, fun f r => deliver_blind t w f.sink r⟩
  stays f r x hx := by
    have hstreams : (deliver f.sink r x).2.streams = x.streams :=
      congrArg Bearings.streams (deliver_keeps f.sink r x)
    simpa only [outlet, hstreams] using hx

namespace Writer

/-- What stands behind a stream runs an errand, with any outlet for the records of a forwarder. -/
def serveTo (o : Outlet Facility) (e : Errand) : Act (Writer × Facility) (Except Fault Nat) :=
  fun (w, x) =>
    match w with
    | .forwarder f => onForwarder f (Forwarder.serve o e) id x
    | w => serve e (w, x)

theorem serveTo_outlet (e : Errand) : serveTo Facility.outlet e = serve e := by
  funext ⟨w, x⟩
  cases w with
  | forwarder f => exact (serve_eq_onForwarder f e x).symm
  | buffer b => rfl
  | guest g => rfl
  | discard => rfl
  | console => rfl

/-- The facility with a forwarder behind a stream. -/
def behind (t : Ref Writer) (p : Forwarder × Facility) : Facility :=
  p.2.putWriter t (.forwarder p.1)

/-- Through a stream a forwarder runs an errand as it does on its own, and however that ends the stream
has it back. -/
theorem onStream_follows_serve {o : Outlet Facility} {t : Ref Writer} (ho : o.Apart t) (e : Errand)
    (p : Forwarder × Facility) (hp : t.index < p.2.streams.items.size) :
    Act.Follows (behind t) (Facility.onStream t (serveTo o e)) (Forwarder.serve o e) p := by
  obtain ⟨f, x⟩ := p
  have hget : (x.putWriter t (.forwarder f)).streams.get t = .forwarder f := Facility.get_putWriter hp _
  -- the stream keeps the forwarder as it was until the errand ends
  have hserve := Forwarder.serve_follows (ho.blind (.forwarder f)) e (f, x)
  rw [Act.Follows] at hserve
  simp only [Prod.map_apply, id_eq] at hserve
  simp only [Act.Follows, behind, Facility.onStream, hget, serveTo, onForwarder, hserve, Prod.map_fst,
    Prod.map_snd, id_eq, Facility.putWriter_putWriter]
  rcases Forwarder.serve o e (f, x) with ⟨_ | _ | _, q⟩ <;> rfl

/-- Through a stream a run of errands is the same as on the forwarder on its own. -/
theorem onStream_follows_attempts {o : Outlet Facility} {t : Ref Writer} (ho : o.Apart t)
    (es : List Errand) {p : Forwarder × Facility} (hp : t.index < p.2.streams.items.size) :
    Act.Follows (behind t) (Act.attempts (fun e => Facility.onStream t (serveTo o e)) es)
      (Act.attempts (Forwarder.serve o) es) p :=
  (Act.attempts_follows_of_invariant
    (I := fun q : Forwarder × Facility => t.index < q.2.streams.items.size)
    (fun e q hq => ⟨onStream_follows_serve ho e q hq, Forwarder.serve_preserves ho.stays e q hq⟩) es hp).1

end Writer

namespace Forwarder

/-- A run of errands is a hearing of them. -/
theorem attempts_serve {o : Outlet σ} (ho : o.Steady) (f : Forwarder) (es : List Errand) (s : σ) :
    Act.Follows (afterwards f) (Act.attempts (serve o) es) (Act.attempts (attend o f) es)
      (Heard.nothing, s) :=
  Act.attempts_follows_of_forall (serve_follows_attend ho f) es _

/-- What is cut in a hearing of errands are the segments of what is heard, and what is handed to the
outlet are the records of those that were cut while the gate was open. -/
theorem attempts_attend_overheard (o : Outlet σ) (f : Forwarder) (es : List Errand) (s : σ) :
    let q := Act.attempts (attend o.overheard f) es (Heard.nothing, (s, []))
    q.2.1.cuts.map Prod.fst = segments f.pending q.2.1.ticks ∧
      q.2.2.2 = q.2.1.cuts.filterMap fun c => (Deed.cut c.1 c.2).record? f :=
  ⟨attempts_attend_preserves
      (P := fun p : Heard × (σ × List Record) => p.1.cuts.map Prod.fst = segments f.pending p.1.ticks)
      (fun t p hp => hearBy_segments o.overheard f f.pending t hp p.2) es rfl,
    attempts_attend_preserves
      (P := fun p : Heard × (σ × List Record) =>
        p.2.2 = p.1.cuts.filterMap fun c => (Deed.cut c.1 c.2).record? f)
      (fun t _ hp => hearBy_overheard o f f.pending t hp) es rfl⟩

/-- **A segment is handed to the sink once.** Let a forwarder be written to and flushed, by a caller that
handles what the sink raises, and let the sink raise messages at any records that it likes. Then an errand
that returned was heard as a whole, and of one that raised a message a beginning that ends with a cut
(`Told`). What was handed to the sink, the record that it raised a message at included, are the segments
of what was heard, in order, each one once if the gate was open at its cut; with a gate that never closes
these are all of them. The forwarder holds what was heard since the last cut. So after an errand that
raised a message it holds nothing and a flush does nothing, and giving a forwarder up is a flush.

The same happens through a stream, whatever sink stands behind it that keeps away from the stream, and in
particular with the sinks of the facility. -/
theorem segments_handed_once (f : Forwarder) (es : List Errand) :
    (∀ {σ : Type} {o : Outlet σ} (s : σ), o.Steady →
      let q := Act.attempts (attend o.overheard f) es (Heard.nothing, (s, []))
      let h := q.2.1
      Act.attempts (serve o) es (f, s) = (q.1, (f.holding (since f.pending h.ticks), q.2.2.1)) ∧
        Act.attempts (serve o.overheard) es (f, (s, [])) =
          (q.1, (f.holding (since f.pending h.ticks), q.2.2)) ∧
        Told es q.1 h.ticks ∧
        h.cuts.map Prod.fst = segments f.pending h.ticks ∧
        (q.2.2.2 = h.cuts.filterMap fun c => (Deed.cut c.1 c.2).record? f) ∧
        ((∀ s, f.isOpen (o.level f s) = true) →
          q.2.2.2 = (segments f.pending h.ticks).map f.record)) ∧
    (∀ {σ : Type} {o : Outlet σ} (e : Errand) (g : Forwarder) (s : σ) (m : String) g' s',
      serve o e (g, s) = (.raised m, (g', s')) →
        g' = g.holding [] ∧ flush o (g', s') = (.done (), (g', s'))) ∧
    ∀ (t : Ref Writer) (x : Facility), t.index < x.streams.items.size →
      (∀ o : Outlet Facility, o.Apart t →
        Act.Follows (Writer.behind t)
          (Act.attempts (fun e => Facility.onStream t (Writer.serveTo o e)) es)
          (Act.attempts (serve o) es) (f, x)) ∧
      Act.Follows (Writer.behind t) (Act.attempts (fun e => Facility.onStream t (Writer.serve e)) es)
        (Act.attempts (serve Facility.outlet) es) (f, x) := by
  refine ⟨fun {σ o} s ho => ?_, fun e g s m g' s' h => serve_of_raised h, fun t x hx => ⟨?_, ?_⟩⟩
  · intro q h
    have hheard : Act.attempts (serve o.overheard) es (f, (s, [])) = (q.1, afterwards f q.2) :=
      attempts_serve (steady_overheard ho) f es (s, [])
    have hbare : Act.attempts (serve o) es (f, s) =
        (q.1, (f.holding (since f.pending h.ticks), q.2.2.1)) := by
      have hfollows : Act.Follows (Prod.map id Prod.fst) (Act.attempts (serve o) es)
          (Act.attempts (serve o.overheard) es) (f, (s, [])) :=
        Act.attempts_follows_of_forall (serve_follows o.follows_overheard) es _
      rw [Act.Follows, hheard] at hfollows
      exact hfollows
    have htold : Told es q.1 h.ticks := by
      obtain ⟨told, hticks, htold⟩ := told_attempts o.overheard f es (Heard.nothing, (s, []))
      rwa [hticks]
    obtain ⟨hcuts, hlog⟩ := attempts_attend_overheard o f es s
    refine ⟨hbare, hheard, htold, hcuts, hlog, fun hopen => ?_⟩
    have hall : ∀ c ∈ h.cuts, f.isOpen c.2 = true :=
      attempts_attend_preserves
        (P := fun p : Heard × (σ × List Record) => ∀ c ∈ p.1.cuts, f.isOpen c.2 = true)
        (fun t _ hp => hearBy_open (fun p => hopen p.1) f.pending t hp) es (by simp [Heard.nothing])
    exact hlog.trans ((filterMap_record?_of_open hall).trans (congrArg (List.map f.record) hcuts))
  · exact fun o ho => Writer.onStream_follows_attempts ho es hx
  · simpa only [Writer.serveTo_outlet] using
      Writer.onStream_follows_attempts (Facility.apart_outlet t) es hx

/-- An outlet whose gate is open and that raises a message at the records that say something. -/
def raisingAt (message : String) : Outlet σ where
  level _ _ := .traceAll
  report _ r := fun s => (if r.message = message then .raised message else .done (), s)

/-- A line in the middle of a write at which the sink raises a message, a write that starts a fresh line,
and a flush of its rest. -/
theorem segments_handed_once_around_a_raised_line :
    let f : Forwarder := ofLevel .warning ⟨"model", 1⟩
    let x : Facility := { Facility.start .nobody ⟨[]⟩ "" none with streams := ⟨#[.discard]⟩ }
    let o : Outlet Facility := raisingAt "b"
    let es : List Errand :=
      [.writeAll [0x61, 0x0a, 0x62, 0x0a, 0x63], .write [0x64, 0x0a, 0x65], .flush]
    let ends := Outcome.done [.error "b", .ok (.ok 3), .ok (.ok 0)]
    o.Steady ∧ o.Apart ⟨0⟩ ∧ 0 < x.streams.items.size ∧
      Act.attempts (serve o.overheard) es (f, (x, [])) =
        (ends, (f, (x, [f.record [0x61], f.record [0x62], f.record [0x64], f.record [0x65]]))) ∧
      flush o (f, x) = (.done (), (f, x)) ∧
      Act.attempts (fun e => Facility.onStream ⟨0⟩ (Writer.serveTo o e)) es
          (x.putWriter ⟨0⟩ (.forwarder f)) = (ends, x.putWriter ⟨0⟩ (.forwarder f)) ∧
      (Act.attempts (fun e => Facility.onStream ⟨0⟩ (Writer.serve e)) es
          (x.putWriter ⟨0⟩ (.forwarder f))).1 = .done [.ok (.ok 5), .ok (.ok 3), .ok (.ok 0)] := by
  intro f x o es ends
  have hsteady : o.Steady := fun _ _ => ⟨rfl, rfl⟩
  have hapart : o.Apart ⟨0⟩ := ⟨fun _ => ⟨fun _ _ => rfl, fun _ _ _ => rfl⟩, fun _ _ _ hx => hx⟩
  have hin : 0 < x.streams.items.size := by decide
  obtain ⟨hruns, hraised, hstreams⟩ := segments_handed_once f es
  obtain ⟨-, hheard, -, -, -, hall⟩ := hruns x hsteady
  obtain ⟨hthrough, hown⟩ := hstreams ⟨0⟩ x hin
  refine ⟨hsteady, hapart, hin, ?_, ?_, ?_, ?_⟩
  · refine hheard.trans (Prod.ext rfl (Prod.ext ?_ (Prod.ext ?_ ?_)))
    · rfl
    · rfl
    · exact (hall fun _ => rfl).trans (by decide +kernel)
  · exact (hraised (.writeAll [0x61, 0x0a, 0x62, 0x0a, 0x63]) f x "b" f x rfl).2
  · exact (hthrough o hapart).trans rfl
  · exact (congrArg Prod.fst hown).trans rfl

end Forwarder

end Logbook
