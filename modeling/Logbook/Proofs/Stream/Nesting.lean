/-
# Redirections that are nested

When every redirection of a stream ends before those that began earlier, and nobody else replaces the
writer behind it, the redirections lie on top of one another: at the bottom the writer that stood there
at first, above it one forwarder for each redirection. `Nest` is such a pile, and it knows what each
writer of it was told. The stream is always told by way of the topmost writer, a redirection adds one on
top, and the end of the topmost takes it off: it cuts what it holds, once, after the writer below is
behind the stream again.

Key definitions: `Forwarder.cutPending`, `Layer`, `Nest`, `Nest.move`, `Move.InOrder`.
Key theorems: `Redirection.retire_forwarder`, `Nest.Shows.move`, `Nest.runAll_eq_nest`.
-/
import Logbook.Proofs.Stream.Moves

namespace Logbook

open Forwarder (Deed Heard Tick bytesOf since)

/-- Cuts what a forwarder holds, if it holds anything. -/
def Forwarder.cutPending (f : Forwarder) : Act Facility Unit := fun x =>
  if f.pending = [] then (.done (), x) else (Deed.cut f.pending (x.levelFor f)).perform f x

/-- A forwarder that is displaced cuts what it holds once, and is gone. -/
theorem Redirection.retire_forwarder (f : Forwarder) :
    retire (.forwarder f) = f.cutPending >>= fun _ => farewell (.ok ()) := by
  funext x
  simp only [retire_eq, Act.bind_run, Writer.attend, Act.map, Errand.ticks_flush, Act.each_singleton,
    Forwarder.hear, Forwarder.Tick.cut?, Heard.nothing, since, Forwarder.cutPending]
  by_cases hp : f.pending = []
  · simp only [hp, if_true]
    rfl
  · simp only [hp, if_false]
    rcases (Deed.cut f.pending (x.levelFor f)).perform f x with ⟨_ | _ | _, y⟩ <;> rfl

/-- A forwarder that a redirection has put behind a stream. -/
structure Layer where
  /-- The redirection, counted from the first. -/
  index : Nat
  /-- The forwarder as it came. -/
  origin : Forwarder
  /-- What it was told since. -/
  told : List Tick

namespace Layer

/-- The forwarder as it is now. -/
def forwarder (l : Layer) : Forwarder := l.origin.holding (since l.origin.pending l.told)

/-- A layer that is told more. -/
def telling (ts : List Tick) (l : Layer) : Layer := { l with told := l.told ++ ts }

theorem forwarder_telling (ts : List Tick) (l : Layer) :
    Writer.forwarder (l.telling ts).forwarder = (Writer.forwarder l.forwarder).having ts := by
  simp only [forwarder, telling, Forwarder.since_append]
  rfl

end Layer

/-- A stream whose redirections are nested. -/
structure Nest where
  /-- The writer that stood behind it at first, as it came. -/
  bottom : Writer
  /-- What that was told since. -/
  told : List Tick
  /-- The redirections that have not ended, the latest first. -/
  layers : List Layer
  /-- How many redirections there have been. -/
  count : Nat

namespace Nest

/-- The topmost writer of some layers above another writer. -/
def topOf (w : Writer) : List Layer → Writer
  | [] => w
  | l :: _ => .forwarder l.forwarder

/-- The writer below a layer, which its redirection will put back. -/
def below (w : Writer) (i : Nat) : List Layer → Option Writer
  | [] => none
  | l :: ls => if l.index = i then some (topOf w ls) else below w i ls

/-- The bottommost writer as it is now. -/
def base (n : Nest) : Writer := n.bottom.having n.told

/-- The topmost writer, which stands behind the stream. -/
def top (n : Nest) : Writer := topOf n.base n.layers

/-- What the program holds. -/
def hands (n : Nest) : Hands Writer :=
  ⟨(List.range n.count).map fun i => below n.base i n.layers, []⟩

/-- A stream without redirections. -/
def bare (w : Writer) : Nest := ⟨w, [], [], 0⟩

/-- The topmost writer is told something. -/
def telling (ts : List Tick) (n : Nest) : Nest :=
  match n.layers with
  | [] => { n with told := n.told ++ ts }
  | l :: ls => { n with layers := l.telling ts :: ls }

/-- One more redirection. -/
def pushing (f : Forwarder) (n : Nest) : Nest :=
  { n with layers := ⟨n.count, f, []⟩ :: n.layers, count := n.count + 1 }

/-- Ends a redirection if it is the latest that has not ended: the writer below is behind the stream
again, and then what the forwarder holds is cut. -/
def pop (s : Ref Writer) (i : Nat) : Act (Nest × Facility) (Except Fault Nat) := fun (n, x) =>
  match n.layers with
  | [] => (.done (.ok 0), (n, x))
  | l :: ls =>
    if l.index = i then
      let r := (l.forwarder.cutPending >>= fun _ => Redirection.farewell (.ok ()))
        (x.putWriter s (topOf n.base ls))
      (r.1.map fun _ => .ok 0, ({ n with layers := ls }, r.2))
    else (.done (.ok 0), (n, x))

/-- Makes a move on a stream whose redirections are nested. -/
def move (s : Ref Writer) : Move → Act (Nest × Facility) (Except Fault Nat)
  | .redirect f => fun (n, x) =>
    match Redirection.announce f x with
    | (.done (), y) => (.done (.ok 0), (n.pushing f, y.putWriter s (.forwarder f)))
    | (.raised m, y) =>
      ((Outcome.raised m).afterCleanup (Writer.giveUp (.forwarder f) y).1,
        (n, (Writer.giveUp (.forwarder f) y).2))
    | (.aborted, y) => (.aborted, (n, y))
  | .ask e => fun (n, x) =>
    let r := n.top.attend e (Heard.nothing, x)
    let n' := n.telling r.2.1.ticks
    (r.1, (n', r.2.2.putWriter s n'.top))
  | .reset i | .giveUp i => pop s i
  | .setLevel g l => fun (n, x) => (.done (.ok 0), (n, x.updateRegistry g (Registry.setLevel l)))
  | .replace _ | .restore _ | .release _ | .askKept _ _ => pure (.ok 0)

end Nest

/-- A move keeps the order of nested redirections: it ends none before a later one has ended, and it
does not replace the writer behind the stream in another way. -/
def Move.InOrder (m : Move) (h : Hands Writer) : Prop :=
  match m with
  | .reset i | .giveUp i => h.guards.getD i none = none ∨ ∀ g ∈ h.guards.drop (i + 1), g = none
  | .redirect _ | .ask _ | .setLevel _ _ => True
  | .replace _ | .restore _ | .release _ | .askKept _ _ => False

instance (m : Move) (h : Hands Writer) : Decidable (m.InOrder h) := by
  cases m <;> unfold Move.InOrder <;> infer_instance

namespace Nest

open Act (Follows)

/-! ### The pile and what the program holds -/

/-- The layers are in order: the latest first, and all of them counted. -/
def Ordered (n : Nest) : Prop :=
  (n.layers.map Layer.index).Pairwise (· > ·) ∧ ∀ l ∈ n.layers, l.index < n.count

theorem below_eq_none {w : Writer} {i : Nat} : ∀ {ls : List Layer}, (∀ l ∈ ls, l.index ≠ i) →
    below w i ls = none
  | [], _ => rfl
  | l :: ls, h => by
    rw [below, if_neg (h l (by simp)), below_eq_none fun l' hl' => h l' (by simp [hl'])]

theorem mem_of_below {w v : Writer} {i : Nat} : ∀ {ls : List Layer}, below w i ls = some v →
    ∃ l ∈ ls, l.index = i
  | l :: ls, h => by
    by_cases hi : l.index = i
    · exact ⟨l, by simp, hi⟩
    · rw [below, if_neg hi] at h
      obtain ⟨l', hl', hi'⟩ := mem_of_below h
      exact ⟨l', by simp [hl'], hi'⟩

theorem below_of_mem {w : Writer} {l : Layer} : ∀ {ls : List Layer}, l ∈ ls →
    ∃ v, below w l.index ls = some v
  | l' :: ls, h => by
    by_cases hi : l'.index = l.index
    · exact ⟨topOf w ls, by rw [below, if_pos hi]⟩
    · rcases List.mem_cons.mp h with rfl | h
      · exact absurd rfl hi
      · rw [below, if_neg hi]
        exact below_of_mem h

theorem getD_hands {n : Nest} (hn : n.Ordered) (i : Nat) :
    n.hands.guards.getD i none = below n.base i n.layers := by
  by_cases hi : i < n.count
  · simp [hands, List.getD_eq_getElem?_getD, hi]
  · have hnone : ∀ l ∈ n.layers, l.index ≠ i := by
      rintro l hl rfl
      exact hi (hn.2 l hl)
    rw [below_eq_none hnone]
    simp [hands, List.getD_eq_getElem?_getD, hi]

/-- A redirection that has not ended, with none that began later, is the topmost. -/
theorem topmost_of_inOrder {n : Nest} (hn : n.Ordered) {i : Nat} {v : Writer}
    (hv : below n.base i n.layers = some v) (hlater : ∀ g ∈ n.hands.guards.drop (i + 1), g = none) :
    ∃ l ls, n.layers = l :: ls ∧ l.index = i := by
  obtain ⟨l', hl', hi'⟩ := mem_of_below hv
  cases hls : n.layers with
  | nil => simp [hls] at hl'
  | cons l ls =>
    refine ⟨l, ls, rfl, ?_⟩
    by_contra hne
    -- the topmost redirection would be a later one
    have hlt : i < l.index := by
      rw [hls] at hl'
      rcases List.mem_cons.mp hl' with rfl | hl'
      · exact absurd hi' hne
      · have hpair := hn.1
        rw [hls, List.map_cons, List.pairwise_cons] at hpair
        exact hi' ▸ hpair.1 _ (List.mem_map_of_mem hl')
    have hmem : l ∈ n.layers := by simp [hls]
    have hcount : l.index < n.count := hn.2 l hmem
    obtain ⟨u, hu⟩ := below_of_mem (w := n.base) hmem
    have hdrop : below n.base l.index n.layers ∈ n.hands.guards.drop (i + 1) := by
      refine List.mem_drop_iff_getElem.mpr ⟨l.index - (i + 1), by simp [hands]; omega, ?_⟩
      simp only [hands, List.getElem_map, List.getElem_range]
      congr 1
      omega
    rw [hlater _ hdrop] at hu
    simp at hu

theorem top_telling (ts : List Tick) (n : Nest) : (n.telling ts).top = n.top.having ts := by
  unfold telling top
  split
  · next h => simp only [h, topOf, base, Writer.having_append]
  · next l ls h => simp only [h, topOf, Layer.forwarder_telling]

theorem ordered_telling {n : Nest} (hn : n.Ordered) (ts : List Tick) : (n.telling ts).Ordered := by
  unfold telling
  split
  · exact hn
  · next l ls h =>
    obtain ⟨hpair, hcount⟩ := hn
    rw [h] at hpair hcount
    refine ⟨hpair, fun l' hl' => ?_⟩
    rcases List.mem_cons.mp hl' with rfl | hl'
    · exact hcount l (by simp)
    · exact hcount l' (by simp [hl'])

/-- What the topmost writer is told does not change what the redirections will put back. -/
theorem hands_telling (ts : List Tick) (n : Nest) : (n.telling ts).hands = n.hands := by
  unfold telling hands
  split
  · next h => simp only [h, below]
  · next l ls h =>
    simp only [h, below, base, Layer.telling]
    rfl

theorem ordered_pushing {n : Nest} (hn : n.Ordered) (f : Forwarder) : (n.pushing f).Ordered := by
  refine ⟨?_, fun l hl => ?_⟩
  · rw [pushing, List.map_cons, List.pairwise_cons]
    refine ⟨fun i hi => ?_, hn.1⟩
    obtain ⟨l, hl, rfl⟩ := List.mem_map.mp hi
    exact hn.2 l hl
  · rcases List.mem_cons.mp hl with rfl | hl
    · exact Nat.lt_succ_self _
    · exact Nat.lt_succ_of_lt (hn.2 l hl)

theorem hands_pushing {n : Nest} (f : Forwarder) :
    (n.pushing f).hands = n.hands.guarding (some n.top) := by
  have hold : ∀ i ∈ List.range n.count,
      below n.base i (⟨n.count, f, []⟩ :: n.layers) = below n.base i n.layers := by
    intro i hi
    rw [below, if_neg (Nat.ne_of_gt (List.mem_range.mp hi))]
  have hnew : below n.base n.count (⟨n.count, f, []⟩ :: n.layers) = some n.top := by
    rw [below, if_pos rfl, top]
  have hguards : (n.pushing f).hands.guards = n.hands.guards ++ [some n.top] := by
    have hrange : (n.pushing f).hands.guards = (List.range (n.count + 1)).map fun i =>
        below n.base i (⟨n.count, f, []⟩ :: n.layers) := rfl
    rw [hrange, List.range_succ, List.map_append, List.map_congr_left hold, List.map_singleton, hnew]
    rfl
  rw [Hands.guarding, ← hguards]
  rfl

theorem ordered_tail {n : Nest} (hn : n.Ordered) {l : Layer} {ls : List Layer}
    (h : n.layers = l :: ls) : Ordered { n with layers := ls } := by
  obtain ⟨hpair, hcount⟩ := hn
  rw [h] at hpair hcount
  exact ⟨(List.pairwise_cons.mp hpair).2, fun l' hl' => hcount l' (by simp [hl'])⟩

theorem hands_tail {n : Nest} (hn : n.Ordered) {l : Layer} {ls : List Layer}
    (h : n.layers = l :: ls) :
    hands { n with layers := ls } = n.hands.setGuard l.index none := by
  have hpair := hn.1
  rw [h, List.map_cons, List.pairwise_cons] at hpair
  have hgone : below n.base l.index ls = none := below_eq_none fun l' hl' =>
    Nat.ne_of_lt (hpair.1 _ (List.mem_map_of_mem hl'))
  have hguards : (hands { n with layers := ls }).guards = n.hands.guards.set l.index none := by
    refine List.ext_getElem (by simp [hands]) fun k hk _ => ?_
    have hk' : k < n.count := by simpa [hands] using hk
    rw [List.getElem_set]
    by_cases hki : l.index = k
    · subst hki
      simp only [hands, List.getElem_map, List.getElem_range, if_true]
      exact hgone
    · simp only [hands, List.getElem_map, List.getElem_range, h, below, if_neg hki]
      rfl
  rw [Hands.setGuard, ← hguards]
  rfl

/-! ### Moves -/

theorem pop_of_topmost (s : Ref Writer) {n : Nest} {l : Layer} {ls : List Layer}
    (h : n.layers = l :: ls) (x : Facility) :
    pop s l.index (n, x) =
      let r := (l.forwarder.cutPending >>= fun _ => Redirection.farewell (.ok ()))
        (x.putWriter s (topOf n.base ls))
      (r.1.map fun _ => .ok 0, ({ n with layers := ls }, r.2)) := by
  simp only [pop, h, if_true]

theorem pop_of_none (s : Ref Writer) {n : Nest} {i : Nat} (h : below n.base i n.layers = none)
    (x : Facility) : pop s i (n, x) = (.done (.ok 0), (n, x)) := by
  cases hls : n.layers with
  | nil => simp only [pop, hls]
  | cons l ls =>
    have hne : l.index ≠ i := by
      rintro rfl
      simp [hls, below] at h
    simp only [pop, hls, if_neg hne]

/-- The redirections of a stream are nested as a pile says. -/
structure Shows (s : Ref Writer) (q : Nest × Facility) : Prop where
  ordered : q.1.Ordered
  inTable : s.index < q.2.streams.items.size
  stream : q.2.streams.get s = q.1.top

theorem shows_bare {s : Ref Writer} {x : Facility} (hs : s.index < x.streams.items.size) :
    Shows s (bare (x.streams.get s), x) where
  ordered := ⟨List.Pairwise.nil, fun l hl => absurd hl (by simp [bare])⟩
  inTable := hs
  stream := ((x.streams.get s).having_nil).symm

/-- The state of a program that holds what a pile says. -/
def state (q : Nest × Facility) : Hands Writer × Facility := (q.1.hands, q.2)

variable {s : Ref Writer} {n : Nest} {x : Facility}

/-- The end of a redirection that nothing lies on takes it off the pile; a redirection that has ended
ends no more. -/
theorem Shows.finish (hq : Shows s (n, x)) {i : Nat} (hi : (Move.reset i).InOrder n.hands) :
    Follows state (Move.finish s i) (pop s i) (n, x) ∧ Shows s (pop s i (n, x)).2 := by
  obtain ⟨hn, hs, htop⟩ := hq
  simp only at hn hs htop
  rw [Follows, state]
  simp only [Move.InOrder] at hi
  cases hv : below n.base i n.layers with
  | none =>
    rw [pop_of_none s hv, Move.finish_of_none s (by rw [getD_hands hn, hv])]
    exact ⟨rfl, hn, hs, htop⟩
  | some v =>
    have hguard : n.hands.guards.getD i none = some v := by rw [getD_hands hn, hv]
    obtain ⟨l, ls, hls, rfl⟩ := topmost_of_inOrder hn hv
      (hi.resolve_left fun hnone => by rw [hguard] at hnone; simp at hnone)
    have hv' : topOf n.base ls = v := by
      rw [hls, below, if_pos rfl] at hv
      exact Option.some.inj hv
    have hdisplaced : n.top = .forwarder l.forwarder := by rw [top, hls, topOf]
    have hkeep : ((l.forwarder.cutPending >>= fun _ => Redirection.farewell (.ok ()))
        (x.putWriter s v)).2.streams = x.streams.put s v := by
      rw [← Redirection.retire_forwarder,
        Facility.streams_of_ground (Redirection.retire_keeps _ _)]
      rfl
    rw [pop_of_topmost s hls, Move.finish_of_some s hguard, htop, hdisplaced,
      Redirection.retire_forwarder, hv']
    refine ⟨?_, ordered_tail hn hls, ?_, ?_⟩
    · simp only [state, hands_tail hn hls]
    · rw [hkeep, Table.size_put]
      exact hs
    · rw [hkeep, Table.get_put hs]
      exact hv'.symm

/-- The end of the topmost redirection puts the writer below back, and then its forwarder cuts what it
holds. -/
theorem Shows.finish_topmost (hq : Shows s (n, x)) {i : Nat} {w : Writer}
    (hi : n.hands.guards[i]? = some (some w)) (horder : (Move.reset i).InOrder n.hands) :
    ∃ g, x.streams.get s = .forwarder g ∧ Move.finish s i (n.hands, x) =
      let q := (g.cutPending >>= fun _ => Redirection.farewell (.ok ())) (x.putWriter s w)
      (q.1.map fun _ => .ok 0, (n.hands.setGuard i none, q.2)) := by
  obtain ⟨hn, hs, htop⟩ := hq
  simp only at hn hs htop
  have hguard : n.hands.guards.getD i none = some w := by simp [List.getD_eq_getElem?_getD, hi]
  obtain ⟨l, ls, hls, rfl⟩ := topmost_of_inOrder hn ((getD_hands hn i).symm.trans hguard)
    (horder.resolve_left fun hnone => by rw [hguard] at hnone; simp at hnone)
  have hdisplaced : n.top = .forwarder l.forwarder := by rw [top, hls, topOf]
  refine ⟨l.forwarder, htop.trans hdisplaced, ?_⟩
  rw [Move.finish_of_some s hguard, htop, hdisplaced, Redirection.retire_forwarder]

/-- Asking the stream tells the topmost writer. -/
theorem Shows.ask (hq : Shows s (n, x)) (e : Errand) :
    Follows state (Move.run s (.ask e)) (move s (.ask e)) (n, x) ∧
      Shows s (move s (.ask e) (n, x)).2 := by
  obtain ⟨hn, hs, htop⟩ := hq
  simp only at hn hs htop
  have hkeep : (n.top.attend e (Heard.nothing, x)).2.2.streams = x.streams :=
    Facility.streams_of_ground (n.top.attend_ground e x)
  have hs' : s.index < (n.top.attend e (Heard.nothing, x)).2.2.streams.items.size := by rwa [hkeep]
  have hmove : move s (.ask e) (n, x) =
      let r := n.top.attend e (Heard.nothing, x)
      (r.1, (n.telling r.2.1.ticks, r.2.2.putWriter s (n.top.having r.2.1.ticks))) := by
    simp only [move, top_telling]
  rw [Follows, state, hmove]
  refine ⟨?_, ordered_telling hn _, ?_, ?_⟩
  · simp only [Move.run, Act.beside, Facility.onStream, htop, Writer.serve_eq_attend, state,
      hands_telling]
  · rw [Facility.streams_putWriter, Table.size_put]
    exact hs'
  · rw [top_telling]
    exact Facility.get_putWriter hs' _

/-- A redirection lays a forwarder on the pile, unless it does not come about. -/
theorem Shows.redirect (hq : Shows s (n, x)) (f : Forwarder) :
    Follows state (Move.run s (.redirect f)) (move s (.redirect f)) (n, x) ∧
      Shows s (move s (.redirect f) (n, x)).2 := by
  obtain ⟨hn, hs, htop⟩ := hq
  simp only at hn hs htop
  have hkeep : (Redirection.announce f x).2.streams = x.streams :=
    congrArg Facility.Bearings.streams (Redirection.announce_keeps f x)
  have hgiveUp (z : Facility) : (Writer.giveUp (.forwarder f) z).2.streams = z.streams :=
    congrArg Facility.Bearings.streams (Writer.giveUp_keeps _ z)
  rw [Follows, state, Move.run_redirect]
  simp only [move]
  generalize Redirection.announce f x = r at hkeep ⊢
  obtain ⟨o, z⟩ := r
  have hz : z.streams = x.streams := hkeep
  rcases o with _ | m | _
  · refine ⟨?_, ordered_pushing hn f, ?_, ?_⟩
    · simp only [state, hands_pushing, hz, htop]
    · rw [Facility.streams_putWriter, Table.size_put, hz]
      exact hs
    · exact Facility.get_putWriter (by rwa [hz]) _
  · exact ⟨rfl, hn, by rwa [hgiveUp, hz], by rwa [hgiveUp, hz]⟩
  · exact ⟨rfl, hn, by rwa [hz], by rwa [hz]⟩

/-- **One move.** A move that keeps the order of the redirections does to the stream what it does to the
pile. -/
theorem Shows.move (m : Move) {q : Nest × Facility} (hm : m.InOrder q.1.hands) (hq : Shows s q) :
    Follows state (m.run s) (move s m) q ∧ Shows s (Nest.move s m q).2 := by
  obtain ⟨n, x⟩ := q
  cases m with
  | redirect f => exact hq.redirect f
  | ask e => exact hq.ask e
  | reset i =>
    rw [Move.run_reset]
    exact hq.finish hm
  | giveUp i =>
    rw [Move.run_giveUp]
    exact hq.finish hm
  | setLevel g l =>
    obtain ⟨hn, hs, htop⟩ := hq
    have hkeep : (x.updateRegistry g (Registry.setLevel l)).streams = x.streams := by
      cases g <;> rfl
    exact ⟨rfl, hn, by rwa [← hkeep] at hs, by rwa [← hkeep] at htop⟩
  | replace w => exact hm.elim
  | restore j => exact hm.elim
  | release j => exact hm.elim
  | askKept j e => exact hm.elim

/-! ### What the writer at the bottom gains -/

/-- The bottommost writer is a given one, and a buffer or a guest has what it had at first and what that
writer was told since, if the writer stands for it. -/
def Gains (w v : Writer) (bs : List UInt8) (q : Nest × Facility) : Prop :=
  q.1.bottom = w ∧ q.2.Stores v (bs ++ if w = v then bytesOf q.1.told else [])

theorem gains_of_same {w v : Writer} {bs : List UInt8} {n n' : Nest} {x y : Facility}
    (hq : Gains w v bs (n, x)) (hbottom : n'.bottom = n.bottom) (htold : n'.told = n.told)
    (hbuffers : y.buffers = x.buffers) (hguests : y.guests = x.guests) : Gains w v bs (n', y) := by
  obtain ⟨hw, hv⟩ := hq
  simp only [Gains, hbottom, htold]
  exact ⟨hw, Facility.stores_of_same hv hbuffers hguests⟩

theorem gains_of_bearings {w v : Writer} {bs : List UInt8} {n n' : Nest} {x y : Facility}
    (hq : Gains w v bs (n, x)) (hbottom : n'.bottom = n.bottom) (htold : n'.told = n.told)
    (hkeep : y.bearings = x.bearings) : Gains w v bs (n', y) :=
  gains_of_same hq hbottom htold (congrArg Facility.Bearings.buffers hkeep)
    (congrArg Facility.Bearings.guests hkeep)

theorem gains_move (s : Ref Writer) (m : Move) {w v : Writer} {bs : List UInt8} {q : Nest × Facility}
    (hq : Gains w v bs q) : Gains w v bs (move s m q).2 := by
  obtain ⟨n, x⟩ := q
  have hpop (i : Nat) : Gains w v bs (pop s i (n, x)).2 := by
    cases hls : n.layers with
    | nil => simp only [pop, hls]; exact hq
    | cons l ls =>
      by_cases hi : l.index = i
      · subst hi
        rw [pop_of_topmost s hls]
        have hcut : Act.Keeps Facility.bearings l.forwarder.cutPending := by
          intro z
          unfold Forwarder.cutPending
          split
          · rfl
          · exact Forwarder.perform_cut_keeps _ _ _ z
        have hput : Gains w v bs (n, x.putWriter s (topOf n.base ls)) := hq
        exact gains_of_bearings hput rfl rfl
          (hcut.bind (fun _ => Redirection.farewell_keeps (.ok ())) (x.putWriter s (topOf n.base ls)))
      · simp only [pop, hls, if_neg hi]
        exact hq
  cases m with
  | redirect f =>
    have hkeep : (Redirection.announce f x).2.bearings = x.bearings := Redirection.announce_keeps f x
    have hgiveUp (z : Facility) : (Writer.giveUp (.forwarder f) z).2.bearings = z.bearings :=
      Writer.giveUp_keeps _ z
    simp only [move]
    generalize Redirection.announce f x = r at hkeep ⊢
    rcases r with ⟨_ | m | _, z⟩
    · exact (gains_of_bearings hq rfl rfl hkeep : Gains w v bs (n, z))
    · exact gains_of_bearings hq rfl rfl ((hgiveUp z).trans hkeep)
    · exact gains_of_bearings hq rfl rfl hkeep
  | ask e =>
    obtain ⟨hw, hv⟩ := hq
    have hgain := n.top.stores_attend e hv
    refine ⟨by cases hls : n.layers <;> simpa [move, telling, hls] using hw, ?_⟩
    suffices h : (n.top.attend e (Heard.nothing, x)).2.2.Stores v (bs ++ if w = v then
        bytesOf (n.telling (n.top.attend e (Heard.nothing, x)).2.1.ticks).told else []) from h
    cases hls : n.layers with
    | nil =>
      have htop : n.top = v ↔ w = v := by
        rw [top, hls, topOf, base, Writer.having_eq_iff (Facility.isPlain_of_stores hv), hw]
      simp only [telling, hls]
      by_cases hwv : w = v
      · simpa only [htop, hwv, if_true, Forwarder.bytesOf_append, List.append_assoc] using hgain
      · simpa only [htop, hwv, if_false, List.append_nil] using hgain
    | cons l ls =>
      have htop : n.top ≠ v := by
        rw [top, hls, topOf]
        exact (Facility.isPlain_of_stores hv _).symm
      simp only [telling, hls]
      simpa only [if_neg htop, List.append_nil] using hgain
  | reset i => exact hpop i
  | giveUp i => exact hpop i
  | setLevel g l => exact gains_of_same hq rfl rfl (by cases g <;> rfl) (by cases g <;> rfl)
  | replace w => exact hq
  | restore j => exact hq
  | release j => exact hq
  | askKept j e => exact hq

/-! ### Whole runs -/

/-- **Nested redirections are transparent.** Let a stream be written to, flushed and redirected, and let
every redirection end before those that began earlier, as often as one tries, with nobody replacing the
writer behind the stream in another way. Then the stream does what the pile does: it is the topmost writer
that is told, and the writers below are as they were left, with what they hold. A buffer or a guest that stood
behind the stream at first has what was told to it while no redirection was in the way, and nothing else. What
a redirection puts back is the writer that stood there when it began, also if the end does not return; the
forwarder that it displaces cuts what it holds once, after that. Whatever happens then, a redirection that
has ended ends no more: a later try changes nothing. -/
theorem runAll_eq_nest (s : Ref Writer) (moves : List Move) (x : Facility)
    (hs : s.index < x.streams.items.size)
    (horder : Act.Along (Move.run s) (fun m p => m.InOrder p.1) moves (Hands.empty, x)) :
    let r := Move.runAll s moves x
    let n := Act.attempts (move s) moves (bare (x.streams.get s), x)
    (r = (n.1, (n.2.1.hands, n.2.2)) ∧ r.2.2.streams.get s = n.2.1.top) ∧
    (∀ v bs, x.Stores v bs →
      r.2.2.Stores v (bs ++ if x.streams.get s = v then bytesOf n.2.1.told else [])) ∧
    (∀ i w, r.2.1.guards[i]? = some (some w) →
      (∃ past f rest, moves = past ++ .redirect f :: rest ∧
        (Move.runAll s past x).2.1.guards.length = i ∧
        (Move.runAll s past x).2.2.streams.get s = w) ∧
      ∀ m : Move, m.Ends i →
        (m.run s r.2).2.2.streams.get s = w ∧ (m.run s r.2).2.1.guards[i]? = some none ∧
        (m.InOrder r.2.1 → ∃ g, r.2.2.streams.get s = .forwarder g ∧ m.run s r.2 =
          let q := (g.cutPending >>= fun _ => Redirection.farewell (.ok ())) (r.2.2.putWriter s w)
          (q.1.map fun _ => .ok 0, (r.2.1.setGuard i none, q.2)))) ∧
    ∀ i later, r.2.1.guards[i]? = some none →
      ∀ m : Move, m.Ends i →
        m.run s (Move.runAll s (moves ++ later) x).2 =
          (.done (.ok 0), (Move.runAll s (moves ++ later) x).2) := by
  intro r n
  have halong : Act.Along (Move.run s) (fun m p => m.InOrder p.1) moves
      (state (bare (x.streams.get s), x)) := horder
  obtain ⟨hrun, hshows⟩ : r = (n.1, state n.2) ∧ Shows s n.2 :=
    Act.attempts_follows (fun m q hm hq => hq.move m hm) moves halong (shows_bare hs)
  have hstate : r.2 = state n.2 := congrArg Prod.snd hrun
  have hstream : r.2.2.streams.get s = n.2.1.top := by
    rw [hstate]
    exact hshows.stream
  refine ⟨⟨hrun, hstream⟩, fun v bs hv => ?_, fun i w hi =>
    ⟨Move.guard_began s x moves hi, fun m hm => ?_⟩, fun i later hi m hm => ?_⟩
  · have hstart : Gains (x.streams.get s) v bs (bare (x.streams.get s), x) :=
      ⟨rfl, by simpa [bare, bytesOf] using hv⟩
    rw [hstate]
    exact (Act.attempts_preserves (fun m q hq => gains_move s m hq) moves hstart).2
  · have hinTable : s.index < r.2.2.streams.items.size := by
      rw [hstate]
      exact hshows.inTable
    obtain ⟨hback, hended⟩ := Move.stream_finish (h := r.2.1) hinTable hi
    rw [Move.run_of_ends s hm]
    refine ⟨hback, hended, fun hmo => ?_⟩
    have hreset : (Move.reset i).InOrder r.2.1 := by
      rcases hm with rfl | rfl
      · exact hmo
      · exact hmo
    rw [hstate] at hi hreset ⊢
    exact hshows.finish_topmost hi hreset
  · rw [Move.run_of_ends s hm, Move.finish_of_ended s (Move.ended_later s x moves later hi)]

/-- Two redirections, each with a line that is finished after the next one has ended, or never, and a try
to end one of them again. -/
theorem runAll_eq_nest_two_deep :
    let f (k : Ref Sink) : Forwarder := { Forwarder.ofLevel .warning ⟨"model", 1⟩ with sink := some k }
    let x : Facility := { Facility.start .nobody ⟨[]⟩ "" none with
      sinks := ⟨#[.memory #[], .memory #[]]⟩
      buffers := ⟨#[.unlimited]⟩
      streams := ⟨#[.buffer ⟨0⟩]⟩ }
    let moves : List Move := [.ask (.write [0x61]), .redirect (f ⟨0⟩), .ask (.write [0x62]),
      .redirect (f ⟨1⟩), .ask (.write [0x63, 0x0a, 0x64]), .reset 1, .ask (.write [0x65, 0x0a]),
      .giveUp 0, .reset 1, .ask (.write [0x66])]
    let r := Move.runAll ⟨0⟩ moves x
    0 < x.streams.items.size ∧
      Act.Along (Move.run ⟨0⟩) (fun m p => m.InOrder p.1) moves (Hands.empty, x) ∧
      r.2.2.streams.get ⟨0⟩ = .buffer ⟨0⟩ ∧
      r.2.2.Stores (.buffer ⟨0⟩) [0x61, 0x66] ∧
      r.2.2.sinks.get ⟨0⟩ = .memory #[(f ⟨0⟩).reported [0x62, 0x65]] ∧
      r.2.2.sinks.get ⟨1⟩ = .memory #[(f ⟨1⟩).reported [0x63], (f ⟨1⟩).reported [0x64]] := by
  refine ⟨by decide, by decide, ?_, ?_, rfl, rfl⟩
  · exact (runAll_eq_nest ⟨0⟩ _ _ (by decide) (by decide)).1.2.trans (by decide)
  · exact (runAll_eq_nest ⟨0⟩ _ _ (by decide) (by decide)).2.1 (.buffer ⟨0⟩) [] (by decide)

end Nest

end Logbook
