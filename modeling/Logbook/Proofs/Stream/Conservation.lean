/-
# No byte of a stream is lost

A program may end the redirections of a stream in any order, and replace the writer behind it as it likes.
Still every byte that the stream accepts goes to one writer, the one that stands behind it then; every
writer is in one place until it is gone, and hears nothing after that; and what a forwarder holds back in
the end is cut once, wherever the forwarder has been in between.

Key definitions: `Ledger.Hears`, `Ledger.Delivers`, `Ledger.Tracks`.
Key theorems: `Ledger.delivers_move`, `Ledger.told_of_gone`, `Ledger.runAll_eq_ledger`.
-/
import Logbook.Proofs.Stream.Ledger

namespace Logbook

open Forwarder (Tick segments since)

namespace Hands

variable {ω χ : Type}

theorem length_labels (h : Hands ω) :
    h.labels.length = h.guards.countP Option.isSome + h.kept.countP Option.isSome := by
  rw [labels, List.length_append, List.reduceOption_length_eq, List.reduceOption_length_eq,
    List.countP_eq_length_filter, List.countP_eq_length_filter]

theorem length_labels_map (f : ω → χ) (h : Hands ω) : (h.map f).labels.length = h.labels.length := by
  rw [labels, labels, map, List.reduceOption_map, List.reduceOption_map, List.length_append,
    List.length_append, List.length_map, List.length_map]

end Hands

namespace Ledger

open Records (Tells)

/-! ### Who hears what -/

/-- One writer hears of an errand what it takes: a beginning of it, and if the writer answers, just what
the answer says, unless the writer fell short of the errand. -/
def Hears (w : Writer) (i : Nat) (e : Errand) (o : Outcome (Except Fault Nat)) (us : List (Nat × Tick)) :
    Prop :=
  ∃ ts, us = ts.map (Prod.mk i) ∧ ts <+: e.ticks ∧
    ∀ a, o = .done a → ts = e.taken a ∨ w.FallsShort e a

/-- What a move tells the writers: who is asked for something hears of it, and otherwise nobody hears
more than a flush. -/
def Delivers (l : Ledger) (m : Move) (o : Outcome (Except Fault Nat)) (us : List (Nat × Tick)) : Prop :=
  match m with
  | .ask e => Hears (l.records.writer l.installed) l.installed e o us
  | .askKept j e =>
    match l.hands.kept.getD j none with
    | none => us = []
    | some k => Hears (l.records.writer k) k e o us
  | .redirect _ | .replace _ | .restore _ | .release _ | .reset _ | .giveUp _ | .setLevel _ _ =>
    ∀ u ∈ us, u.2 = .flush

variable {s : Ref Writer} {start x : Facility} {l : Ledger}

theorem log_tell (i : Nat) (e : Errand) (r : Records) (x : Facility) :
    ∃ us, (Records.tell i e (r, x)).2.1.log = r.log ++ us ∧
      Hears (r.writer i) i e (Records.tell i e (r, x)).1 us :=
  ⟨_, rfl, _, rfl, (r.writer i).ticks_attend e x⟩

theorem fst_of_hears {w : Writer} {i : Nat} {e : Errand} {o : Outcome (Except Fault Nat)}
    {us : List (Nat × Tick)} (h : Hears w i e o us) {u : Nat × Tick} (hu : u ∈ us) : u.1 = i := by
  obtain ⟨ts, rfl, -, -⟩ := h
  obtain ⟨t, -, rfl⟩ := List.mem_map.mp hu
  rfl

theorem log_flush {i : Nat} {p q : Records × Facility} (hq : Tells i .flush p q) :
    ∃ us, q.1.log = p.1.log ++ us ∧ ∀ u ∈ us, u.1 = i ∧ u.2 = .flush := by
  obtain ⟨ts, hlog, hts⟩ := hq.log
  refine ⟨_, hlog, fun u hu => ?_⟩
  obtain ⟨t, ht, rfl⟩ := List.mem_map.mp hu
  exact ⟨rfl, List.mem_singleton.mp (hts.subset ht)⟩

/-- **One move.** Whatever is told is entered behind what was told before, and nobody who is gone hears
anything. -/
theorem delivers_move (hl : l.Sound) (s : Ref Writer) (m : Move) (x : Facility) :
    ∃ us, (move s m (l, x)).2.1.records.log = l.records.log ++ us ∧ (∀ u ∈ us, u.1 ∉ l.gone) ∧
      l.Delivers m (move s m (l, x)).1 us := by
  have hnothing {m : Move} {o : Outcome (Except Fault Nat)}
      (h : l.Delivers m o []) : ∃ us, l.records.log = l.records.log ++ us ∧
        (∀ u ∈ us, u.1 ∉ l.gone) ∧ l.Delivers m o us :=
    ⟨[], by simp, by simp, h⟩
  have hlive {i : Nat} (hi : i ∈ l.live) : i ∉ l.gone := fun hgone => hl.ne_of_gone hi hgone rfl
  have hclose (i : Nat) : ∃ us, (close s i (l, x)).2.1.records.log = l.records.log ++ us ∧
      (∀ u ∈ us, u.1 ∉ l.gone) ∧ ∀ u ∈ us, u.2 = .flush := by
    simp only [close]
    split
    · exact ⟨[], by simp⟩
    · next k _ =>
      obtain ⟨us, hlog, hus⟩ := log_flush (Records.tells_retire hl.written (hl.lt_of_live (.head _))
        (x.putWriter s (l.records.writer k)))
      exact ⟨us, hlog, fun u hu => (hus u hu).1 ▸ hlive (.head _), fun u hu => (hus u hu).2⟩
  cases m with
  | redirect f =>
    simp only [move]
    rcases Redirection.announce f x with ⟨_ | m | _, z⟩
    · exact hnothing (by simp [Delivers])
    · have hlt : l.records.arrivals.length < (l.records.arriving (.forwarder f)).arrivals.length := by
        simp [Records.arriving]
      obtain ⟨us, hlog, hus⟩ :=
        log_flush (Records.tells_discard (Records.written_arriving hl.written _) hlt z)
      refine ⟨us, hlog, fun u hu hgone => ?_, fun u hu => (hus u hu).2⟩
      have hlt' := hl.lt (List.mem_append_right _ hgone)
      rw [(hus u hu).1] at hlt'
      exact absurd hlt' (Nat.lt_irrefl _)
    · exact hnothing (by simp [Delivers])
  | replace w => exact hnothing (by simp [Delivers])
  | restore j =>
    simp only [move]
    split <;> exact hnothing (by simp [Delivers])
  | release j =>
    simp only [move]
    split
    · exact hnothing (by simp [Delivers])
    · next k hj =>
      have hk : k ∈ l.live :=
        List.mem_cons_of_mem _ ((Hands.labels_setKept_none hj).mem_iff.mpr (.head _))
      obtain ⟨us, hlog, hus⟩ := log_flush (Records.tells_discard hl.written (hl.lt_of_live hk) x)
      exact ⟨us, hlog, fun u hu => (hus u hu).1 ▸ hlive hk, fun u hu => (hus u hu).2⟩
  | ask e =>
    obtain ⟨us, hlog, hus⟩ := log_tell l.installed e l.records x
    exact ⟨us, hlog, fun u hu => fst_of_hears hus hu ▸ hlive (.head _), hus⟩
  | askKept j e =>
    simp only [move, Delivers]
    cases hj : l.hands.kept.getD j none with
    | none => exact ⟨[], by simp⟩
    | some k =>
      have hk : k ∈ l.live :=
        List.mem_cons_of_mem _ ((Hands.labels_setKept_none hj).mem_iff.mpr (.head _))
      obtain ⟨us, hlog, hus⟩ := log_tell k e l.records x
      exact ⟨us, hlog, fun u hu => fst_of_hears hus hu ▸ hlive hk, hus⟩
  | reset i => exact hclose i
  | giveUp i => exact hclose i
  | setLevel g lvl => exact hnothing (by simp [Delivers])

/-- Who is gone stays so. -/
theorem gone_move (s : Ref Writer) (m : Move) (x : Facility) {k : Nat} (hk : k ∈ l.gone) :
    k ∈ (move s m (l, x)).2.1.gone := by
  have hclose (i : Nat) : k ∈ (close s i (l, x)).2.1.gone := by
    simp only [close]
    split
    · exact hk
    · exact List.mem_append_left _ hk
  cases m with
  | redirect f =>
    simp only [move]
    rcases Redirection.announce f x with ⟨_ | _ | _, z⟩
    · exact hk
    · exact List.mem_append_left _ hk
    · exact hk
  | release j =>
    simp only [move]
    split
    · exact hk
    · exact List.mem_append_left _ hk
  | replace w => exact hk
  | restore j => simp only [move]; split <;> exact hk
  | ask e => exact hk
  | askKept j e => simp only [move]; split <;> exact hk
  | reset i => exact hclose i
  | giveUp i => exact hclose i
  | setLevel g lvl => exact hk

theorem gone_close {i k : Nat} (hk : l.hands.guards.getD i none = some k) (x : Facility) :
    (close s i (l, x)).2.1.gone = l.gone ++ [l.installed] := by
  simp only [close, hk]

/-- Who is gone hears nothing more, whatever happens then. -/
theorem told_of_gone {q : Ledger × Facility} (hq : Stands s start q) {k : Nat} (hk : k ∈ q.1.gone)
    (later : List Move) :
    k ∈ (Act.attempts (move s) later q).2.1.gone ∧
      (Act.attempts (move s) later q).2.1.records.told k = q.1.records.told k := by
  refine (Act.attempts_preserves (P := fun q' : Ledger × Facility =>
    Stands s start q' ∧ k ∈ q'.1.gone ∧ q'.1.records.told k = q.1.records.told k)
    ?_ later ⟨hq, hk, rfl⟩).2
  rintro m ⟨l', y⟩ ⟨hq', hgone, htold⟩
  obtain ⟨us, hlog, hus, -⟩ := delivers_move hq'.sound s m y
  refine ⟨(hq'.move m).2, gone_move s m y hgone, ?_⟩
  have hnone : entriesOf k us = [] := entriesOf_eq_nil fun u hu h => hus u hu (h ▸ hgone)
  rw [Records.told, hlog, entriesOf_append, hnone, List.append_nil]
  exact htold

/-! ### Whole runs -/

/-- A program does what is done in the ledger, from the start to the end. -/
theorem stands_runAll {s : Ref Writer} {x : Facility} (hs : s.index < x.streams.items.size)
    (moves : List Move) :
    Act.Follows state (Act.attempts (Move.run s) moves) (Act.attempts (move s) moves)
        (opened (x.streams.get s), x) ∧
      Stands s x (Act.attempts (move s) moves (opened (x.streams.get s), x)).2 :=
  Act.attempts_follows_of_invariant (fun m _ hq => hq.move m) moves (stands_opened hs)

/-- As many writers are not gone as one, the redirections that have not ended, and what the program was
handed back and still holds. -/
theorem length_arrivals (hl : l.Sound) :
    l.records.arrivals.length = l.gone.length + (1 + l.shown.guards.countP Option.isSome +
      l.shown.kept.countP Option.isSome) := by
  have hlength := hl.places.length_eq
  have hlabels := l.shown.length_labels
  rw [shown, Hands.length_labels_map] at hlabels
  rw [List.length_append, live, List.length_cons, List.length_range, hlabels] at hlength
  rw [← hlength]
  simp only [shown]
  omega

/-- What a forwarder held back when it was flushed for the last time is cut once, behind all that it cut
before. -/
theorem cuts_of_gone (hl : l.Sound) {k : Nat} {f : Forwarder}
    (hf : l.records.arrivals[k]? = some (.forwarder f)) (hk : k ∈ l.gone) :
    ∃ ts, l.records.told k = ts ++ [.flush] ∧ (l.records.cutsBy k).map Prod.fst =
      segments f.pending ts ++ (Tick.flush.cut? (since f.pending ts)).toList := by
  obtain ⟨ts, hts⟩ := hl.flushed k hk f hf
  refine ⟨ts, hts, ?_⟩
  rw [hl.written.cuts_eq k f hf, hts, Forwarder.segments_append]
  simp [segments]

/-- Makes moves in the ledger one after the other, from the start. -/
def runAll (s : Ref Writer) (moves : List Move) (x : Facility) :
    Outcome (List (Except String (Except Fault Nat))) × (Ledger × Facility) :=
  Act.attempts (move s) moves (opened (x.streams.get s), x)

/-- Some moves on a stream end in `o` and leave the facility `y`, and all that there is to know of the stream
then is in the ledger `l`. -/
structure Tracks (s : Ref Writer) (moves : List Move) (x : Facility)
    (o : Outcome (List (Except String (Except Fault Nat)))) (l : Ledger) (y : Facility) : Prop where
  /-- The program does what is done in the ledger, and holds what the ledger says. -/
  run : Move.runAll s moves x = (o, (l.shown, y))
  /-- Behind the stream stands the writer that the ledger has there. -/
  stream : y.streams.get s = l.records.writer l.installed
  /-- Every writer that came is in just one place: behind the stream, in a redirection that has not ended,
  in the program's hands, or gone. -/
  places : (l.live ++ l.gone).Perm (List.range l.records.arrivals.length)
  /-- As many writers are not gone as one, the redirections that have not ended, and what the program was
  handed back and still holds. -/
  count : l.records.arrivals.length = l.gone.length +
    (1 + l.shown.guards.countP Option.isSome + l.shown.kept.countP Option.isSome)
  /-- What the stream takes is told to the writer behind it and to nobody else, no move but a write tells
  anybody a byte, and nobody who is gone hears anything. -/
  delivers : ∀ m : Move, ∃ us, (move s m (l, y)).2.1.records.log = l.records.log ++ us ∧
    (∀ u ∈ us, u.1 ∉ l.gone) ∧ l.Delivers m (m.run s (l.shown, y)).1 us
  /-- A forwarder cuts just the segments of what it was told over its whole life. -/
  cuts : ∀ k f, l.records.arrivals[k]? = some (.forwarder f) →
    (l.records.cutsBy k).map Prod.fst = segments f.pending (l.records.told k)
  /-- When it is gone it heard a flush last, so what it held back then is cut once. -/
  lastCut : ∀ k f, l.records.arrivals[k]? = some (.forwarder f) → k ∈ l.gone →
    ∃ ts, l.records.told k = ts ++ [.flush] ∧ (l.records.cutsBy k).map Prod.fst =
      segments f.pending ts ++ (Tick.flush.cut? (since f.pending ts)).toList
  /-- Who is gone stays so and hears no more, whatever happens later. -/
  gone : ∀ k later, k ∈ l.gone →
    let l' := (runAll s (moves ++ later) x).2.1
    k ∈ l'.gone ∧ l'.records.told k = l.records.told k
  /-- What every buffer, guest and memory sink has is what the records say. -/
  accounted : l.records.Accounted x y
  /-- The end of a redirection puts the writer back that the redirection holds, and then flushes the one that
  stood there, which is gone; the writer is back also if that does not return. -/
  ends : ∀ i w, l.shown.guards[i]? = some (some w) → ∀ m : Move, m.Ends i →
    (m.run s (l.shown, y) =
      let q := Redirection.retire (y.streams.get s) (y.putWriter s w)
      (q.1.map fun _ => .ok 0, (l.shown.setGuard i none, q.2))) ∧
    (m.run s (l.shown, y)).2.2.streams.get s = w ∧
    (move s m (l, y)).2.1.gone = l.gone ++ [l.installed]
  /-- A redirection that has ended ends no more. -/
  ended : ∀ i later, l.shown.guards[i]? = some none → ∀ m : Move, m.Ends i →
    m.run s (Move.runAll s (moves ++ later) x).2 = (.done (.ok 0), (Move.runAll s (moves ++ later) x).2)

/-- **Nothing is lost, whatever order redirections end in.** Let a program redirect a stream, replace the
writer behind it, put a writer that it was handed back there again, write, flush, end redirections and give
up what it holds, as it likes, whatever its sinks and its writers raise and however much a writer took before
it failed. Then the stream does what the ledger says. -/
theorem runAll_eq_ledger (s : Ref Writer) (moves : List Move) (x : Facility)
    (hs : s.index < x.streams.items.size) :
    let n := runAll s moves x
    Tracks s moves x n.1 n.2.1 n.2.2 := by
  intro n
  obtain ⟨hrun, hstands⟩ : Move.runAll s moves x = (n.1, state n.2) ∧ Stands s x n.2 := stands_runAll hs moves
  have hsound : n.2.1.Sound := hstands.sound
  refine
    { run := hrun
      stream := hstands.stream
      places := hsound.places
      count := length_arrivals hsound
      delivers := fun m => ?delivers
      cuts := hsound.written.cuts_eq
      lastCut := fun k f hf hk => cuts_of_gone hsound hf hk
      gone := fun k later hk => ?gone
      accounted := hstands.accounted
      ends := fun i w hi m hm => ?ends
      ended := fun i later hi m hm => ?ended }
  case delivers =>
    obtain ⟨us, hlog, hus, hdelivers⟩ := delivers_move hsound s m n.2.2
    have hmove : m.run s (n.2.1.shown, n.2.2) = _ := (hstands.move m).1
    rw [hmove]
    exact ⟨us, hlog, hus, hdelivers⟩
  case gone =>
    by_cases h : n.1 = .aborted
    · rw [runAll, Act.attempts_append_of_aborted later moves h]
      exact ⟨hk, rfl⟩
    · rw [runAll, Act.attempts_append later moves h]
      exact told_of_gone hstands hk later
  case ends =>
    have hg : n.2.1.shown.guards.getD i none = some w := by simp [List.getD_eq_getElem?_getD, hi]
    obtain ⟨hback, -⟩ := Move.stream_finish (h := n.2.1.shown) hstands.inTable hi
    rw [Move.run_of_ends s hm]
    refine ⟨Move.finish_of_some s hg n.2.2, hback, ?_⟩
    -- the ledger has the same redirection, by its number
    have hclose : move s m = close s i := by rcases hm with rfl | rfl <;> rfl
    rw [shown, Hands.getD_guards_map, Option.map_eq_some_iff] at hg
    obtain ⟨k, hk, -⟩ := hg
    rw [hclose]
    exact gone_close hk n.2.2
  case ended =>
    have hstate : (Move.runAll s moves x).2 = (n.2.1.shown, n.2.2) := congrArg Prod.snd hrun
    have hi' : (Move.runAll s moves x).2.1.guards[i]? = some none := by rwa [hstate]
    rw [Move.run_of_ends s hm, Move.finish_of_ended s (Move.ended_later s x moves later hi')]

/-- Two redirections of which the first ends first, while a guest stands behind the stream that takes a part
of what it is to write and fails, and whose flush fails; so the second displaces the buffer that was there at
first, and puts the first forwarder back with what it held. -/
theorem runAll_eq_ledger_out_of_order :
    let f (k : Ref Sink) : Forwarder := { Forwarder.ofLevel .warning ⟨"model", 1⟩ with sink := some k }
    let guest : Guest := ⟨[⟨1, .done (.ok ())⟩, ⟨2, .done (.error .diskFull)⟩,
      ⟨0, .done (.error .deviceGone)⟩], #[]⟩
    let x : Facility := { Facility.start .nobody ⟨[]⟩ "" none with
      sinks := ⟨#[.memory #[], .memory #[]]⟩
      buffers := ⟨#[.unlimited]⟩
      guests := ⟨#[guest]⟩
      streams := ⟨#[.buffer ⟨0⟩]⟩ }
    let moves : List Move := [.ask (.write [0x61]), .redirect (f ⟨0⟩), .ask (.write [0x62]),
      .redirect (f ⟨1⟩), .ask (.write [0x63]), .replace (.guest ⟨0⟩), .ask (.write [0x64, 0x65]),
      .ask (.writeAll [0x69, 0x6a, 0x6b]), .reset 0, .ask (.write [0x66]), .giveUp 1,
      .ask (.write [0x67, 0x0a, 0x68]), .release 0, .replace .discard, .release 1, .reset 1]
    let r := Move.runAll ⟨0⟩ moves x
    0 < x.streams.items.size ∧
      r.2.2.streams.get ⟨0⟩ = .discard ∧
      r.2.2.Stores (.buffer ⟨0⟩) [0x61, 0x66] ∧
      r.2.2.Stores (.guest ⟨0⟩) [0x64, 0x69, 0x6a] ∧
      r.2.2.Remembers ⟨0⟩ #[(f ⟨0⟩).reported [0x62, 0x67], (f ⟨0⟩).reported [0x68]] ∧
      r.2.2.Remembers ⟨1⟩ #[(f ⟨1⟩).reported [0x63]] := by
  intro f guest x moves
  have hstored {v : Writer} {x : Facility} {bs bs' : List UInt8} (hbs : bs = bs') (h : x.Stores v bs) :
      x.Stores v bs' := hbs ▸ h
  have hsinks {k : Ref Sink} {x : Facility} {rs rs' : Array Record} (hrs : rs = rs')
      (h : x.Remembers k rs) : x.Remembers k rs' := hrs ▸ h
  have htracks := runAll_eq_ledger ⟨0⟩ moves x (by decide)
  rw [htracks.run]
  dsimp only
  refine ⟨by decide, ?_, ?_, ?_, ?_, ?_⟩
  · exact htracks.stream.trans (by decide +kernel)
  · exact hstored (by decide +kernel) (htracks.accounted.stored (.buffer ⟨0⟩) [] (by decide))
  · exact hstored (by decide +kernel) (htracks.accounted.stored (.guest ⟨0⟩) [] (by decide))
  · exact hsinks (by decide +kernel) (htracks.accounted.sinks ⟨0⟩ #[] ⟨by decide, rfl⟩)
  · exact hsinks (by decide +kernel) (htracks.accounted.sinks ⟨1⟩ #[] ⟨by decide, rfl⟩)

end Ledger

end Logbook
