/-
# A ledger of the writers of a stream

However redirections end, in whatever order, and whoever else replaces the writer behind the stream, the
writers change places: behind the stream, in a redirection that will put it back, in the program's hands,
or gone. The ledger says by numbers which writer is where, and keeps records of what they were told. Every
writer that came is in exactly one place, a forwarder is gone only after a flush, and a move on the
stream is a move in the ledger (`Ledger.Stands.move`).

Key definitions: `Hands.labels`, `Ledger`, `Ledger.move`, `Ledger.Sound`, `Ledger.Stands`.
Key theorems: `Hands.labels_setGuard_none`, `Ledger.Sound.tells`, `Ledger.Stands.move`.
-/
import Mathlib.Data.List.ReduceOption
import Logbook.Proofs.Stream.Accounts

namespace Logbook

/-! ### What hands hold -/

/-- Taking something out of a list. -/
theorem reduceOption_set_none {α : Type} : ∀ {as : List (Option α)} {i : Nat} {a : α},
    as.getD i none = some a → as.reduceOption.Perm (a :: (as.set i none).reduceOption)
  | [], i, a, h => by simp at h
  | b :: as, 0, a, h => by
    have hb : b = some a := by simpa using h
    rw [hb, List.reduceOption_cons_of_some, List.set_cons_zero, List.reduceOption_cons_of_none]
  | b :: as, i + 1, a, h => by
    have hi : as.getD i none = some a := by simpa using h
    have ih := reduceOption_set_none hi
    rw [List.set_cons_succ]
    cases b with
    | none => simpa only [List.reduceOption_cons_of_none] using ih
    | some b =>
      rw [List.reduceOption_cons_of_some, List.reduceOption_cons_of_some]
      exact (ih.cons b).trans (.swap a b _)

namespace Hands

variable {ω χ : Type}

/-- All that is held, by redirections and otherwise. -/
def labels (h : Hands ω) : List ω := h.guards.reduceOption ++ h.kept.reduceOption

theorem labels_guarding (a : ω) (h : Hands ω) : (h.guarding (some a)).labels.Perm (a :: h.labels) := by
  rw [labels, guards_guarding, kept_guarding, List.reduceOption_append, List.reduceOption_singleton,
    List.append_assoc]
  exact List.perm_middle

theorem labels_keeping (a : ω) (h : Hands ω) : (h.keeping a).labels.Perm (a :: h.labels) := by
  rw [labels, guards_keeping, kept_keeping, List.reduceOption_append, List.reduceOption_singleton,
    ← List.append_assoc]
  exact List.perm_append_singleton a h.labels

theorem labels_setGuard_none {h : Hands ω} {i : Nat} {a : ω} (hi : h.guards.getD i none = some a) :
    h.labels.Perm (a :: (h.setGuard i none).labels) :=
  (reduceOption_set_none hi).append_right h.kept.reduceOption

theorem labels_setKept_none {h : Hands ω} {j : Nat} {a : ω} (hj : h.kept.getD j none = some a) :
    h.labels.Perm (a :: (h.setKept j none).labels) :=
  ((reduceOption_set_none hj).append_left h.guards.reduceOption).trans List.perm_middle

theorem setKept_setKept (j : Nat) (a b : Option ω) (h : Hands ω) :
    (h.setKept j a).setKept j b = h.setKept j b := by
  simp only [setKept, List.set_set]

theorem lt_of_kept {h : Hands ω} {j : Nat} {a : ω} (hj : h.kept.getD j none = some a) :
    j < h.kept.length := by
  by_contra hge
  simp [List.getD_eq_getElem?_getD, List.getElem?_eq_none (Nat.le_of_not_lt hge)] at hj

/-- What is put in the place of something else. -/
theorem labels_setKept_some {h : Hands ω} {j : Nat} {a : ω} (hj : h.kept.getD j none = some a) (b : ω) :
    (h.setKept j (some b)).labels.Perm (b :: (h.setKept j none).labels) := by
  have hb : (h.setKept j (some b)).kept.getD j none = some b := by
    simp [List.getD_eq_getElem?_getD, lt_of_kept hj]
  simpa only [setKept_setKept] using labels_setKept_none hb

theorem setKept_self {h : Hands ω} {j : Nat} {a : ω} (hj : h.kept.getD j none = some a) :
    h.setKept j (some a) = h := by
  have hlt := lt_of_kept hj
  have hget : h.kept[j] = some a := by simpa [List.getD_eq_getElem?_getD, hlt] using hj
  have hset : h.kept.set j (some a) = h.kept := by rw [← hget, List.set_getElem_self]
  rw [setKept, hset]

/-! ### The same with other writers -/

theorem map_guarding (f : ω → χ) (a : ω) (h : Hands ω) :
    (h.guarding (some a)).map f = (h.map f).guarding (some (f a)) := by
  simp [map, guarding]

theorem map_keeping (f : ω → χ) (a : ω) (h : Hands ω) :
    (h.keeping a).map f = (h.map f).keeping (f a) := by
  simp [map, keeping]

theorem map_setGuard_none (f : ω → χ) (i : Nat) (h : Hands ω) :
    (h.setGuard i none).map f = (h.map f).setGuard i none := by
  simp [map, setGuard, List.map_set]

theorem map_setKept (f : ω → χ) (j : Nat) (a : Option ω) (h : Hands ω) :
    (h.setKept j a).map f = (h.map f).setKept j (a.map f) := by
  simp [map, setKept, List.map_set]

theorem getD_guards_map (f : ω → χ) (h : Hands ω) (i : Nat) :
    (h.map f).guards.getD i none = (h.guards.getD i none).map f := by
  cases hi : h.guards[i]? <;> simp [map, List.getD_eq_getElem?_getD, hi]

theorem getD_kept_map (f : ω → χ) (h : Hands ω) (j : Nat) :
    (h.map f).kept.getD j none = (h.kept.getD j none).map f := by
  cases hj : h.kept[j]? <;> simp [map, List.getD_eq_getElem?_getD, hj]

theorem map_congr {f g : ω → χ} {h : Hands ω} (hfg : ∀ a ∈ h.labels, f a = g a) :
    h.map f = h.map g := by
  have hmap {as : List (Option ω)} (has : ∀ a ∈ as.reduceOption, f a = g a) :
      as.map (Option.map f) = as.map (Option.map g) := by
    refine List.map_congr_left fun b hb => ?_
    cases b with
    | none => rfl
    | some a => exact congrArg some (has a (List.reduceOption_mem_iff.mpr hb))
  rw [map, map, hmap fun a ha => hfg a (List.mem_append_left _ ha),
    hmap fun a ha => hfg a (List.mem_append_right _ ha)]

end Hands

/-! ### The ledger -/

/-- Which writer of a stream is where, by numbers. -/
structure Ledger where
  records : Records
  /-- The one behind the stream. -/
  installed : Nat
  /-- The ones that the program holds. -/
  hands : Hands Nat
  /-- The ones that were given up. -/
  gone : List Nat

namespace Ledger

open Act (Follows)

open Records (Tells)

/-- The writers that are not gone. -/
def live (l : Ledger) : List Nat := l.installed :: l.hands.labels

/-- What the program holds. -/
def shown (l : Ledger) : Hands Writer := l.hands.map l.records.writer

/-- The ledger of a stream that nothing was done with. -/
def opened (w : Writer) : Ledger := ⟨⟨[w], [], []⟩, 0, .empty, []⟩

/-- Ends a redirection that has not ended: its writer is behind the stream again, and then the one that
stood there is retired. -/
def close (s : Ref Writer) (i : Nat) : Act (Ledger × Facility) (Except Fault Nat) := fun (l, x) =>
  match l.hands.guards.getD i none with
  | none => (.done (.ok 0), (l, x))
  | some k =>
    let r := Records.retire l.installed (l.records, x.putWriter s (l.records.writer k))
    (r.1.map fun _ => .ok 0,
      (⟨r.2.1, k, l.hands.setGuard i none, l.gone ++ [l.installed]⟩, r.2.2))

/-- Makes a move on a stream with a ledger. -/
def move (s : Ref Writer) : Move → Act (Ledger × Facility) (Except Fault Nat)
  | .redirect f => fun (l, x) =>
    let n := l.records.arrivals.length
    let came := l.records.arriving (.forwarder f)
    match Redirection.announce f x with
    | (.done (), y) =>
      (.done (.ok 0),
        (⟨came, n, l.hands.guarding (some l.installed), l.gone⟩, y.putWriter s (.forwarder f)))
    | (.raised m, y) =>
      let r := Records.discard n (came, y)
      ((Outcome.raised m).afterCleanup r.1, (⟨r.2.1, l.installed, l.hands, l.gone ++ [n]⟩, r.2.2))
    | (.aborted, y) => (.aborted, (l, y))
  | .replace w => fun (l, x) =>
    (.done (.ok 0),
      (⟨l.records.arriving w, l.records.arrivals.length, l.hands.keeping l.installed, l.gone⟩,
        x.putWriter s w))
  | .restore j => fun (l, x) =>
    match l.hands.kept.getD j none with
    | none => (.done (.ok 0), (l, x))
    | some k =>
      (.done (.ok 0),
        (⟨l.records, k, l.hands.setKept j (some l.installed), l.gone⟩,
          x.putWriter s (l.records.writer k)))
  | .release j => fun (l, x) =>
    match l.hands.kept.getD j none with
    | none => (.done (.ok 0), (l, x))
    | some k =>
      let r := Records.discard k (l.records, x)
      (r.1.map fun _ => .ok 0, (⟨r.2.1, l.installed, l.hands.setKept j none, l.gone ++ [k]⟩, r.2.2))
  | .ask e => fun (l, x) =>
    let r := Records.tell l.installed e (l.records, x)
    (r.1, ({ l with records := r.2.1 }, r.2.2.putWriter s (r.2.1.writer l.installed)))
  | .askKept j e => fun (l, x) =>
    match l.hands.kept.getD j none with
    | none => (.done (.ok 0), (l, x))
    | some k =>
      let r := Records.tell k e (l.records, x)
      (r.1, ({ l with records := r.2.1 }, r.2.2))
  | .reset i | .giveUp i => close s i
  | .setLevel g lvl => fun (l, x) => (.done (.ok 0), (l, x.updateRegistry g (Registry.setLevel lvl)))

/-- The books are in order: every writer that came is in exactly one place, the records are in order, and
a forwarder that is gone was flushed last. -/
structure Sound (l : Ledger) : Prop where
  places : (l.live ++ l.gone).Perm (List.range l.records.arrivals.length)
  written : l.records.Written
  flushed : ∀ i ∈ l.gone, l.records.Flushed i

theorem sound_opened (w : Writer) : (opened w).Sound where
  places := .refl _
  written := ⟨by simp [opened], by simp [opened], fun _ _ _ => rfl⟩
  flushed := by simp [opened]

namespace Sound

variable {l l' : Ledger} {i : Nat}

theorem lt (hl : l.Sound) (hi : i ∈ l.live ++ l.gone) : i < l.records.arrivals.length :=
  List.mem_range.mp (hl.places.mem_iff.mp hi)

theorem lt_of_live (hl : l.Sound) (hi : i ∈ l.live) : i < l.records.arrivals.length :=
  hl.lt (List.mem_append_left _ hi)

theorem nodup (hl : l.Sound) : (l.live ++ l.gone).Nodup :=
  hl.places.nodup_iff.mpr List.nodup_range

theorem live_nodup (hl : l.Sound) : l.live.Nodup := (List.nodup_append.mp hl.nodup).1

theorem ne_of_gone (hl : l.Sound) (hi : i ∈ l.live) {k : Nat} (hk : k ∈ l.gone) : i ≠ k :=
  (List.nodup_append.mp hl.nodup).2.2 i hi k hk

theorem installed_ne (hl : l.Sound) (hi : i ∈ l.hands.labels) : l.installed ≠ i := by
  rintro rfl
  exact (List.nodup_cons.mp hl.live_nodup).1 hi

/-- A writer that is held in one place is in no other. -/
theorem kept_ne (hl : l.Sound) {j k : Nat} (hj : l.hands.kept.getD j none = some k)
    (hi : i ∈ (l.hands.setKept j none).labels) : k ≠ i := by
  rintro rfl
  have hnodup := (List.nodup_cons.mp hl.live_nodup).2
  exact (List.nodup_cons.mp ((Hands.labels_setKept_none hj).nodup_iff.mp hnodup)).1 hi

/-- The books stay in order when a writer that is not gone is told something. -/
theorem tells (hl : l.Sound) (hi : i ∈ l.live) {e : Errand} {x : Facility} {q : Records × Facility}
    (hq : Tells i e (l.records, x) q) : Sound { l with records := q.1 } where
  places := by
    have h := hl.places
    rwa [← hq.arrivals] at h
  written := hq.written
  flushed _ hk := Records.flushed_of_tells hq (hl.ne_of_gone hi hk) (hl.flushed _ hk)

/-- The books stay in order when the writers that are not gone change places. -/
theorem moved (hl : l.Sound) (hrecords : l'.records = l.records) (hlive : l'.live.Perm l.live)
    (hgone : l'.gone = l.gone) : l'.Sound where
  places := by
    rw [hrecords, hgone]
    exact (hlive.append_right _).trans hl.places
  written := hrecords ▸ hl.written
  flushed := by
    rw [hrecords, hgone]
    exact hl.flushed

/-- The books stay in order when a writer goes; if it is a forwarder, it must have been flushed. -/
theorem left (hl : l.Sound) (hrecords : l'.records = l.records) (hlive : l.live.Perm (i :: l'.live))
    (hgone : l'.gone = l.gone ++ [i]) (hflushed : l.records.Flushed i) : l'.Sound where
  places := by
    rw [hrecords, hgone, ← List.append_assoc]
    exact ((List.perm_append_singleton i _).trans (hlive.symm.append_right l.gone)).trans hl.places
  written := hrecords ▸ hl.written
  flushed k hk := by
    rw [hrecords]
    rcases List.mem_append.mp (hgone ▸ hk) with hk | hk
    · exact hl.flushed k hk
    · rwa [List.mem_singleton.mp hk]

/-- The books stay in order when a writer comes. -/
theorem came (hl : l.Sound) (w : Writer) (hrecords : l'.records = l.records.arriving w)
    (hplaces : (l'.live ++ l'.gone).Perm (l.records.arrivals.length :: (l.live ++ l.gone)))
    (hgone : l'.gone = l.gone) : l'.Sound where
  places := by
    have hlength : l'.records.arrivals.length = l.records.arrivals.length + 1 := by
      rw [hrecords, Records.arriving, List.length_append, List.length_singleton]
    rw [hlength, List.range_succ]
    exact hplaces.trans ((hl.places.cons _).trans (List.perm_append_singleton _ _).symm)
  written := hrecords ▸ Records.written_arriving hl.written w
  flushed k hk := by
    rw [hgone] at hk
    rw [hrecords]
    exact Records.flushed_arriving (hl.flushed k hk) (hl.lt (List.mem_append_right _ hk))

end Sound

/-- A stream stands as its ledger says, and the records account for what has happened since the start. -/
structure Stands (s : Ref Writer) (start : Facility) (q : Ledger × Facility) : Prop where
  inTable : s.index < q.2.streams.items.size
  stream : q.2.streams.get s = q.1.records.writer q.1.installed
  sound : q.1.Sound
  accounted : q.1.records.Accounted start q.2

theorem stands_opened {s : Ref Writer} {x : Facility} (hs : s.index < x.streams.items.size) :
    Stands s x (opened (x.streams.get s), x) where
  inTable := hs
  stream := ((x.streams.get s).having_nil).symm
  sound := sound_opened _
  accounted := ⟨fun _ => rfl, fun v bs hv => by simpa [Records.bytesTo, opened] using hv,
    fun k rs hk => by simpa [Records.recordsTo, opened] using hk⟩

/-- The state of a program that holds what a ledger says. -/
def state (q : Ledger × Facility) : Hands Writer × Facility := (q.1.shown, q.2)

variable {s : Ref Writer} {start x : Facility} {l : Ledger}

/-- A writer that comes does not change what is held. -/
theorem map_arriving (hl : l.Sound) (w : Writer) :
    l.hands.map (l.records.arriving w).writer = l.shown :=
  Hands.map_congr fun _ hk => Records.writer_arriving_of_lt
    (hl.lt_of_live (List.mem_cons_of_mem _ hk)) w

/-- Nor does what is told to a writer that is not held. -/
theorem map_tells {hs : Hands Nat} {i : Nat} {e : Errand} {p q : Records × Facility}
    (hq : Tells i e p q) (hne : ∀ k ∈ hs.labels, i ≠ k) : hs.map q.1.writer = hs.map p.1.writer :=
  Hands.map_congr fun k hk => hq.writer_of_ne (hne k hk)

theorem Stands.redirect (hq : Stands s start (l, x)) (f : Forwarder) :
    Follows state (Move.run s (.redirect f)) (move s (.redirect f)) (l, x) ∧
      Stands s start (move s (.redirect f) (l, x)).2 := by
  obtain ⟨hs, hstream, hl, hacc⟩ := hq
  simp only at hs hstream hl hacc
  have hkeep : (Redirection.announce f x).2.streams = x.streams :=
    congrArg Facility.Bearings.streams (Redirection.announce_keeps f x)
  have hhold := Redirection.announce_holdings f x
  have hwritten := Records.written_arriving hl.written (.forwarder f)
  have hnew := Records.writer_arriving_new hl.written (.forwarder f)
  have hold := Records.writer_arriving_of_lt (hl.lt_of_live (.head _)) (.forwarder f)
  rw [Follows, state, Move.run_redirect]
  simp only [move]
  generalize Redirection.announce f x = r at hkeep hhold ⊢
  obtain ⟨o, z⟩ := r
  have hz : z.streams = x.streams := hkeep
  rcases o with _ | m | _
  · refine ⟨?_, ?_, ?_, ?_, ?_⟩
    · have hshown : (l.hands.guarding (some l.installed)).map (l.records.arriving (.forwarder f)).writer =
          l.shown.guarding (some (x.streams.get s)) := by
        rw [Hands.map_guarding, map_arriving hl, hold, hstream]
      simp only [state, shown, hshown, hz]
    · rw [Facility.streams_putWriter, Table.size_put, hz]
      exact hs
    · rw [hnew]
      exact Facility.get_putWriter (by rwa [hz]) _
    · exact hl.came (.forwarder f) rfl
        (((Hands.labels_guarding l.installed l.hands).cons _).append_right l.gone) rfl
    · exact Records.accounted_of_holdings (Records.accounted_arriving hl.written hacc _) hhold
  · -- the forwarder comes, and is gone at once
    obtain ⟨hend, hstate⟩ := Records.discard_eq l.records.arrivals.length
      (l.records.arriving (.forwarder f)) z
    have hlt : l.records.arrivals.length < (l.records.arriving (.forwarder f)).arrivals.length := by
      simp [Records.arriving]
    have htells := Records.tells_discard hwritten hlt z
    have hflushed := Records.flushed_discard (l.records.arriving (.forwarder f))
      l.records.arrivals.length z
    have hne {k : Nat} (hk : k ∈ l.live) : l.records.arrivals.length ≠ k :=
      Nat.ne_of_gt (hl.lt_of_live hk)
    have hlabels := Hands.labels_keeping l.records.arrivals.length l.hands
    have hlive : (l.installed :: (l.hands.keeping l.records.arrivals.length).labels).Perm
        (l.records.arrivals.length :: l.live) := (hlabels.cons _).trans (.swap _ _ _)
    rw [hnew] at hend hstate
    dsimp only
    generalize Records.discard l.records.arrivals.length (l.records.arriving (.forwarder f), z) = q
      at hend hstate htells hflushed ⊢
    have hstreams : q.2.2.streams = x.streams := htells.streams.trans hz
    refine ⟨?_, by rwa [hstreams], ?_, ?_, ?_⟩
    · have hshown : l.hands.map q.2.1.writer = l.shown :=
        (map_tells htells fun k hk => hne (List.mem_cons_of_mem _ hk)).trans (map_arriving hl _)
      simp only [state, shown, hshown, hend, hstate]
    · rw [hstreams, hstream, htells.writer_of_ne (hne (.head _)), hold]
    · have hcame : Sound ⟨l.records.arriving (.forwarder f), l.installed,
          l.hands.keeping l.records.arrivals.length, l.gone⟩ :=
        hl.came (.forwarder f) rfl (hlive.append_right l.gone) rfl
      exact (hcame.tells (hlive.mem_iff.mpr (.head _)) htells).left rfl hlive rfl hflushed
    · exact htells.accounted start
        (Records.accounted_of_holdings (Records.accounted_arriving hl.written hacc _) hhold)
  · exact ⟨rfl, by rwa [hz], by rwa [hz], hl, Records.accounted_of_holdings hacc hhold⟩

theorem Stands.replace (hq : Stands s start (l, x)) (w : Writer) :
    Follows state (Move.run s (.replace w)) (move s (.replace w)) (l, x) ∧
      Stands s start (move s (.replace w) (l, x)).2 := by
  obtain ⟨hs, hstream, hl, hacc⟩ := hq
  simp only at hs hstream hl hacc
  refine ⟨?_, ?_, ?_, ?_, ?_⟩
  · have hold := Records.writer_arriving_of_lt (hl.lt_of_live (.head _)) w
    have hshown : (l.hands.keeping l.installed).map (l.records.arriving w).writer =
        l.shown.keeping (x.streams.get s) := by
      rw [Hands.map_keeping, map_arriving hl, hold, hstream]
    simp only [Follows, state, move, shown, hshown]
    rfl
  · exact (Table.size_put ..).symm ▸ hs
  · exact (Facility.get_putWriter hs w).trans (Records.writer_arriving_new hl.written w).symm
  · exact hl.came w rfl (((Hands.labels_keeping l.installed l.hands).cons _).append_right l.gone) rfl
  · exact Records.accounted_of_holdings (Records.accounted_arriving hl.written hacc w) rfl

theorem getD_kept_shown (l : Ledger) (j : Nat) :
    l.shown.kept.getD j none = (l.hands.kept.getD j none).map l.records.writer :=
  Hands.getD_kept_map ..

theorem Stands.restore (hq : Stands s start (l, x)) (j : Nat) :
    Follows state (Move.run s (.restore j)) (move s (.restore j)) (l, x) ∧
      Stands s start (move s (.restore j) (l, x)).2 := by
  obtain ⟨hs, hstream, hl, hacc⟩ := hq
  simp only at hs hstream hl hacc
  rw [Follows, state, Move.run_restore, getD_kept_shown]
  simp only [move]
  cases hj : l.hands.kept.getD j none with
  | none => exact ⟨rfl, hs, hstream, hl, hacc⟩
  | some k =>
    refine ⟨?_, ?_, Facility.get_putWriter hs _, ?_, ?_⟩
    · simp only [state, shown, Hands.map_setKept, hstream, Option.map_some]
    · exact (Table.size_put ..).symm ▸ hs
    · refine hl.moved rfl ?_ rfl
      exact (((Hands.labels_setKept_some hj l.installed).cons k).trans (.swap _ _ _)).trans
        ((Hands.labels_setKept_none hj).symm.cons l.installed)
    · exact Records.accounted_of_holdings hacc rfl

theorem Stands.release (hq : Stands s start (l, x)) (j : Nat) :
    Follows state (Move.run s (.release j)) (move s (.release j)) (l, x) ∧
      Stands s start (move s (.release j) (l, x)).2 := by
  obtain ⟨hs, hstream, hl, hacc⟩ := hq
  simp only at hs hstream hl hacc
  simp only [Follows, state, Move.run, move, getD_kept_shown]
  cases hj : l.hands.kept.getD j none with
  | none => exact ⟨rfl, hs, hstream, hl, hacc⟩
  | some k =>
    have hlabels := Hands.labels_setKept_none hj
    have hk : k ∈ l.hands.labels := hlabels.mem_iff.mpr (.head _)
    have hlive : k ∈ l.live := List.mem_cons_of_mem _ hk
    obtain ⟨hend, hstate⟩ := Records.discard_eq k l.records x
    have htells := Records.tells_discard hl.written (hl.lt_of_live hlive) x
    have hflushed := Records.flushed_discard l.records k x
    simp only [Option.map_some]
    generalize Records.discard k (l.records, x) = q at hend hstate htells hflushed ⊢
    refine ⟨?_, by rwa [htells.streams], ?_, ?_, htells.accounted start hacc⟩
    · have hshown : (l.hands.setKept j none).map q.2.1.writer = l.shown.setKept j none := by
        rw [map_tells htells fun i hi => hl.kept_ne hj hi, Hands.map_setKept]
        rfl
      simp only [shown] at hshown ⊢
      rw [hshown, hend, hstate]
    · rw [htells.streams, hstream, htells.writer_of_ne (hl.installed_ne hk).symm]
    · exact (hl.tells hlive htells).left rfl ((hlabels.cons _).trans (.swap _ _ _)) rfl hflushed

theorem Stands.ask (hq : Stands s start (l, x)) (e : Errand) :
    Follows state (Move.run s (.ask e)) (move s (.ask e)) (l, x) ∧
      Stands s start (move s (.ask e) (l, x)).2 := by
  obtain ⟨hs, hstream, hl, hacc⟩ := hq
  simp only at hs hstream hl hacc
  have htells := Records.tells_tell hl.written (hl.lt_of_live (.head _)) e x
  have hrun : (Move.ask e).run s (l.shown, x) =
      let r := Records.tell l.installed e (l.records, x)
      (r.1, (l.shown, r.2.2.putWriter s (r.2.1.writer l.installed))) := by
    simp only [Move.run, Act.beside, Facility.onStream, hstream, Writer.serve_eq_attend, Records.tell,
      Records.writer_noting_self]
  rw [Follows, state, hrun]
  simp only [move]
  generalize Records.tell l.installed e (l.records, x) = q at htells ⊢
  have hs' : s.index < q.2.2.streams.items.size := by rwa [htells.streams]
  refine ⟨?_, ?_, Facility.get_putWriter hs' _, hl.tells (.head _) htells, ?_⟩
  · have hshown : l.hands.map q.2.1.writer = l.shown :=
      map_tells htells fun k hk => hl.installed_ne hk
    simp only [state, shown, hshown]
  · exact (Table.size_put ..).symm ▸ hs'
  · exact Records.accounted_of_holdings (htells.accounted start hacc) rfl

theorem Stands.askKept (hq : Stands s start (l, x)) (j : Nat) (e : Errand) :
    Follows state (Move.run s (.askKept j e)) (move s (.askKept j e)) (l, x) ∧
      Stands s start (move s (.askKept j e) (l, x)).2 := by
  obtain ⟨hs, hstream, hl, hacc⟩ := hq
  simp only at hs hstream hl hacc
  simp only [Follows, state, Move.run, move, getD_kept_shown]
  cases hj : l.hands.kept.getD j none with
  | none => exact ⟨rfl, hs, hstream, hl, hacc⟩
  | some k =>
    have hk : k ∈ l.hands.labels := (Hands.labels_setKept_none hj).mem_iff.mpr (.head _)
    have hlive : k ∈ l.live := List.mem_cons_of_mem _ hk
    have htells := Records.tells_tell hl.written (hl.lt_of_live hlive) e x
    have hserve : Writer.serve e (l.records.writer k, x) =
        let r := Records.tell k e (l.records, x)
        (r.1, (r.2.1.writer k, r.2.2)) := by
      simp only [Writer.serve_eq_attend, Records.tell, Records.writer_noting_self]
    simp only [Option.map_some, hserve]
    generalize Records.tell k e (l.records, x) = q at htells ⊢
    refine ⟨?_, by rwa [htells.streams], ?_, hl.tells hlive htells, htells.accounted start hacc⟩
    · -- only what is held in this place is another writer now
      have hrest := map_tells htells fun i hi => hl.kept_ne hj hi
      have hshown : l.shown.setKept j (some (q.2.1.writer k)) = l.hands.map q.2.1.writer := by
        calc l.shown.setKept j (some (q.2.1.writer k))
            = ((l.hands.setKept j none).map l.records.writer).setKept j (some (q.2.1.writer k)) := by
              rw [Hands.map_setKept, Hands.setKept_setKept]
              rfl
          _ = ((l.hands.setKept j none).setKept j (some k)).map q.2.1.writer := by
              rw [← hrest, Hands.map_setKept q.2.1.writer j (some k)]
              rfl
          _ = l.hands.map q.2.1.writer := by
              rw [Hands.setKept_setKept, Hands.setKept_self hj]
      rw [hshown]
      rfl
    · rw [htells.streams, hstream, htells.writer_of_ne (hl.installed_ne hk).symm]

/-- The end of a redirection puts one writer back, and the one that it displaces is gone. -/
theorem Stands.close (hq : Stands s start (l, x)) (i : Nat) :
    Follows state (Move.finish s i) (close s i) (l, x) ∧ Stands s start (Ledger.close s i (l, x)).2 := by
  obtain ⟨hs, hstream, hl, hacc⟩ := hq
  simp only at hs hstream hl hacc
  have hget : l.shown.guards.getD i none = (l.hands.guards.getD i none).map l.records.writer :=
    Hands.getD_guards_map ..
  simp only [Follows, state, Move.finish, Ledger.close, hget]
  cases hi : l.hands.guards.getD i none with
  | none => exact ⟨rfl, hs, hstream, hl, hacc⟩
  | some k =>
    have hlabels := Hands.labels_setGuard_none hi
    have hk : k ∈ l.hands.labels := hlabels.mem_iff.mpr (.head _)
    obtain ⟨hend, hstate⟩ :=
      Records.retire_eq l.installed l.records (x.putWriter s (l.records.writer k))
    have htells := Records.tells_retire hl.written (hl.lt_of_live (.head _))
      (x.putWriter s (l.records.writer k))
    have hflushed := Records.flushed_retire l.records l.installed (x.putWriter s (l.records.writer k))
    simp only [Option.map_some, hstream]
    generalize Records.retire l.installed (l.records, x.putWriter s (l.records.writer k)) = q
      at hend hstate htells hflushed ⊢
    have hstreams : q.2.2.streams = x.streams.put s (l.records.writer k) := htells.streams
    refine ⟨?_, ?_, ?_, ?_, ?_⟩
    · have hshown : (l.hands.setGuard i none).map q.2.1.writer = l.shown.setGuard i none := by
        rw [map_tells htells fun a ha => hl.installed_ne (hlabels.mem_iff.mpr (.tail _ ha)),
          Hands.map_setGuard_none]
        rfl
      simp only [shown] at hshown ⊢
      rw [hshown, hend, hstate]
    · rw [hstreams, Table.size_put]
      exact hs
    · rw [hstreams, Table.get_put hs, htells.writer_of_ne (hl.installed_ne hk)]
    · exact (hl.tells (.head _) htells).left rfl (hlabels.cons _) rfl hflushed
    · exact htells.accounted start (Records.accounted_of_holdings hacc rfl)

/-- **One move.** A program makes a move on a stream as it is made in the ledger, and the stream stands as
the ledger says after it. -/
theorem Stands.move (m : Move) {q : Ledger × Facility} (hq : Stands s start q) :
    Follows state (m.run s) (move s m) q ∧ Stands s start (Ledger.move s m q).2 := by
  obtain ⟨l, x⟩ := q
  cases m with
  | redirect f => exact hq.redirect f
  | replace w => exact hq.replace w
  | restore j => exact hq.restore j
  | release j => exact hq.release j
  | ask e => exact hq.ask e
  | askKept j e => exact hq.askKept j e
  | reset i =>
    rw [Move.run_reset]
    exact hq.close i
  | giveUp i =>
    rw [Move.run_giveUp]
    exact hq.close i
  | setLevel g lvl =>
    obtain ⟨hs, hstream, hl, hacc⟩ := hq
    have hkeep : (x.updateRegistry g (Registry.setLevel lvl)).streams = x.streams := by
      cases g <;> rfl
    exact ⟨rfl, by rwa [← hkeep] at hs, by rwa [← hkeep] at hstream, hl,
      Records.accounted_of_holdings hacc (by cases g <;> rfl)⟩

end Ledger

end Logbook
