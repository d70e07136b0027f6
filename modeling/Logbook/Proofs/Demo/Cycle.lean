/-
# The cues of a cycle

A statement of the workload dispatches one record if it is enabled and does nothing otherwise. The line
that the component writes to its stream comes in several pieces; the forwarder that stands behind the
stream meanwhile makes one record of them if the global level lets it, and before and after the stream
remarks on the redirection. When the line is written, the writer that stood there before is back. So on
a stage a cycle performs cues that are known from the registry and the number of the cycle
(`simulateCycle_performs`).

Key definitions: `entry`, `due`, `fetched`, `onBus`, `fromVendor`, `cycleCues`.
Key theorems: `say_of_info`, `vendorLine_performs`, `simulateCycle_performs`.
-/
import Logbook.Proofs.Demo.Cue
import Logbook.Proofs.Forwarder.Chunks
import Logbook.Proofs.Forwarder.Raising
import Logbook.Proofs.Registry.Admission
import Logbook.Proofs.Stream.Nesting

namespace Logbook

theorem Table.put_get {α : Type} [Inhabited α] (t : Table α) (r : Ref α) : t.put r (t.get r) = t := by
  obtain ⟨items⟩ := t
  by_cases hr : r.index < items.size
  · simp [put, get, Array.setIfInBounds, hr]
  · simp [put, Array.setIfInBounds, hr]

theorem Facility.putWriter_get (s : Ref Writer) (x : Facility) :
    x.putWriter s (x.streams.get s) = x := by
  rw [putWriter, Table.put_get]

/-- Bytes without a newline are held back. -/
theorem cutLines_of_notMem : ∀ {bs : List UInt8}, newline ∉ bs → ∀ held : List UInt8,
    cutLines held bs = ([], held ++ bs)
  | [], _, held => by simp
  | b :: bs, h, held => by
    have hb : b ≠ newline := fun hb => h (by simp [hb])
    have hbs : newline ∉ bs := fun hm => h (List.mem_cons_of_mem b hm)
    rw [cutLines_cons, if_neg hb, cutLines_of_notMem hbs, List.append_assoc, List.singleton_append]

namespace Forwarder

variable {σ : Type} {o : Outlet σ} {f : Forwarder} {held bs : List UInt8} {s s' : σ}

/-- A piece of a line is held back. -/
theorem write_piece (h : newline ∉ bs) :
    write o bs (f.holding held, s) = (.done bs.length, (f.holding (held ++ bs), s)) := by
  simp only [write, pending_holding, cutLines_of_notMem h]
  rfl

/-- The end of a line cuts it. -/
theorem write_lineEnd (ho : o.Steady) (h : newline ∉ bs)
    (hemit : emit o f (held ++ bs) s = (.done (), s')) :
    write o (bs ++ [newline]) (f.holding held, s) =
      (.done (bs ++ [newline]).length, (f.holding [], s')) := by
  have hcut : cutLines held (bs ++ [newline]) = ([held ++ bs], []) := by
    rw [cutLines_append, cutLines_of_notMem h, cutLines_cons, if_pos rfl, cutLines_nil]
    rfl
  simp only [write, pending_holding, hcut, Act.each_singleton, emit_holding f held ho, hemit]
  rfl

end Forwarder

namespace Demo

open Forwarder (emit)

/-! ### Statements -/

/-- The record of a statement of the workload. -/
def entry (k : Statement) (category message : String) : Record :=
  ⟨k.severity, category, message, k.verbosity, site⟩

/-- The record of an informational statement, if its verbosity does not exceed the threshold for its
category. -/
def due (r : Registry) (k : Statement) (category message : String) : List Record :=
  if k.verbosity ≤ r.verbosityFor (some category) then [entry k category message] else []

theorem record_eq_entry (k : Statement) (category message : String) :
    k.record site (some category) message = entry k category message := by
  have hmessage : "" ++ message = message := String.empty_append
  simp only [Statement.record, Statement.draft, Draft.start, Draft.setCategory, Draft.append, Draft.record,
    Draft.currentCategory, hmessage]
  rfl

variable {c : Ref Clock} {s : Ref Writer} {k : Statement} {category message : String} {x y z : Facility}

theorem say_of_isEnabled (h : k.isEnabled (some category) x = true) :
    say k category (.ok message) x = Facility.dispatch (entry k category message) x := by
  have hrun := Statement.run_eq_of_isEnabled k site (some category) message x
  rw [if_pos h, record_eq_entry] at hrun
  show (k.run site (some category) message >>= fun _ => pure ()) x = _
  rw [Act.bind_run, hrun, Act.bind_run]
  rcases Facility.dispatch (entry k category message) x with ⟨_ | _ | _, y⟩ <;> rfl

/-- A statement that is not enabled does nothing, whatever it would have to say. -/
theorem say_of_disabled (h : k.isEnabled (some category) x = false) (m : Except String String) :
    say k category m x = (.done (), x) := by
  simp only [say, Statement.runWith, Act.bind_run, Act.inspect, h, Bool.false_eq_true, if_false]
  rfl

theorem say_of_info (hk : k.severity = .info) :
    Performs c (say k category (.ok message)) ((due x.registry k category message).map .tell) x := by
  have hiff := Statement.isEnabled_iff_of_info hk (some category) x
  by_cases hdue : k.verbosity ≤ x.registry.verbosityFor (some category)
  · rw [Performs, say_of_isEnabled (hiff.mpr hdue), due, if_pos hdue, List.map_singleton, Act.each_singleton]
    rfl
  · rw [Performs, say_of_disabled (Bool.eq_false_iff.mpr fun h => hdue (hiff.mp h)), due, if_neg hdue]
    rfl

/-- What is worse than informational is said whatever the registry is. -/
theorem say_of_worse (hk : k.severity ≠ .info) :
    Performs c (say k category (.ok message)) [.tell (entry k category message)] x := by
  have henabled : k.isEnabled (some category) x = true := by
    have hfiltered : k.severity.isFiltered = false := by
      cases hs : k.severity with
      | info => exact absurd hs hk
      | _ => rfl
    rw [Statement.isEnabled, Registry.enabled, hfiltered, Bool.not_false, Bool.true_or]
  rw [Performs, say_of_isEnabled henabled, Act.each_singleton]
  rfl

/-! ### The line of the component -/

/-- What makes records of what the component writes. -/
def vendorForwarder : Forwarder := .ofLevel .info site

/-- The line of the component. -/
def vendorText (cycle : Nat) : String := "vendor model: cycle " ++ toString cycle ++ " ok"

/-- The record of the component's line, if the global level is at least info. -/
def fromVendor (r : Registry) (cycle : Nat) : List Record :=
  if .info ≤ r.level then [entry .info Record.defaultCategory (vendorText cycle)] else []

/-- The remark on the start of a redirection. -/
def redirected : Event :=
  .remark Event.streamTarget "redirecting stream into report pipeline" [("level", .shown Level.info.name)]

/-- The remark on its end. -/
def restored : Event := .remark Event.streamTarget "stream redirection reset" []

/-- The pieces in which the component writes its line. -/
def vendorPieces (s : Ref Writer) (cycle : Nat) : Act Facility Unit := do
  scribble s "vendor model: cycle "
  scribble s (toString cycle)
  scribble s " "
  scribble s "ok\n"

theorem mild_remark (e : Event) : (Cue.remark e).Mild := by simp [Cue.Mild, Cue.record?]

theorem mild_tells {rs : List Record} (h : ∀ r ∈ rs, r.severity ≠ .fatal) :
    ∀ q ∈ rs.map Cue.tell, q.Mild := by
  intro q hq
  obtain ⟨r, hr, rfl⟩ := List.mem_map.mp hq
  simpa [Cue.Mild, Cue.record?] using h r hr

/-- A record that is there on some condition is mild if it is mild where it is there. -/
theorem mild_ite {p : Prop} [Decidable p] {r : Record} (hr : r.severity ≠ .fatal) :
    ∀ q ∈ if p then [r] else [], q.severity ≠ .fatal := by
  split
  · exact List.forall_mem_singleton.mpr hr
  · exact fun q hq => absurd hq List.not_mem_nil

theorem mild_fromVendor (r : Registry) (cycle : Nat) : ∀ q ∈ (fromVendor r cycle).map Cue.tell, q.Mild :=
  mild_tells (mild_ite Severity.noConfusion)

/-- What the component's line comes down to. -/
def vendorCues (r : Registry) (cycle : Nat) : List Cue :=
  .remark redirected :: (fromVendor r cycle).map .tell ++ [.remark restored]

theorem mild_vendorCues (r : Registry) (cycle : Nat) : ∀ q ∈ vendorCues r cycle, q.Mild :=
  List.forall_mem_append.mpr ⟨List.forall_mem_cons.mpr ⟨mild_remark _, mild_fromVendor r cycle⟩,
    List.forall_mem_singleton.mpr (mild_remark _)⟩

/-- A write to a stream with a forwarder behind it is a write to the forwarder. -/
theorem scribble_behind (hy : s.index < y.streams.items.size) (text : String) (f : Forwarder) :
    Act.Follows (Writer.behind s) (scribble s text)
      (Act.map (fun _ => ()) (Forwarder.write Facility.outlet (Text.bytes text))) (f, y) := by
  have hserve := (Writer.onStream_follows_serve (Facility.apart_outlet s)
    (.writeAll (Text.bytes text)) (f, y) hy).map fun _ => ()
  have hscribble : scribble s text = Act.map (fun _ => ())
      (Facility.onStream s (Writer.serve (.writeAll (Text.bytes text)))) := by
    funext w
    simp only [scribble, Act.bind_run, Facility.onStream, Writer.serve, Act.map]
    rcases Writer.writeAll (Text.bytes text) (w.streams.get s, w) with ⟨_ | _ | _, q⟩ <;> rfl
  rwa [Writer.serveTo_outlet, ← hscribble, Forwarder.serve, Act.map_map] at hserve

theorem scribble_piece (hy : s.index < y.streams.items.size) (text : String) (htext : Text.OneLine text)
    (held : List UInt8) :
    scribble s text (Writer.behind s (vendorForwarder.holding held, y)) =
      (.done (), Writer.behind s (vendorForwarder.holding (held ++ Text.bytes text), y)) := by
  have hwrite : Forwarder.write Facility.outlet (Text.bytes text) (vendorForwarder.holding held, y) = _ :=
    Forwarder.write_piece (Text.newline_notMem_bytes htext)
  have hfollows := scribble_behind hy text (vendorForwarder.holding held)
  simpa only [Act.Follows, Act.map, hwrite, Outcome.map] using hfollows

theorem scribble_lineEnd (hy : s.index < y.streams.items.size) (text : String) (htext : Text.OneLine text)
    {held : List UInt8}
    (hemit : emit Facility.outlet vendorForwarder (held ++ Text.bytes text) y = (.done (), z)) :
    scribble s (text ++ "\n") (Writer.behind s (vendorForwarder.holding held, y)) =
      (.done (), Writer.behind s (vendorForwarder.holding [], z)) := by
  have hwrite := Forwarder.write_lineEnd Facility.steady_outlet (Text.newline_notMem_bytes htext) hemit
  have hfollows := scribble_behind hy (text ++ "\n") (vendorForwarder.holding held)
  rw [Text.bytes_line] at hfollows
  simpa only [Act.Follows, Act.map, hwrite, Outcome.map] using hfollows

/-- The pieces that the component writes are one line. -/
theorem vendorPieces_behind (hy : s.index < y.streams.items.size) {cycle : Nat}
    (hemit : emit Facility.outlet vendorForwarder (Text.bytes (vendorText cycle)) y = (.done (), z)) :
    vendorPieces s cycle (Writer.behind s (vendorForwarder, y)) =
      (.done (), Writer.behind s (vendorForwarder, z)) := by
  have hheld : ([] ++ Text.bytes "vendor model: cycle " ++ Text.bytes (toString cycle) ++ Text.bytes " ") ++
      Text.bytes "ok" = Text.bytes (vendorText cycle) := by
    rw [List.nil_append, ← Text.bytes_append, ← Text.bytes_append, ← Text.bytes_append, String.append_assoc]
    rfl
  have hstart := scribble_piece hy "vendor model: cycle " (by decide) []
  have hnumber := scribble_piece hy (toString cycle) (Text.oneLine_natural cycle)
    ([] ++ Text.bytes "vendor model: cycle ")
  have hblank := scribble_piece hy " " (by decide)
    ([] ++ Text.bytes "vendor model: cycle " ++ Text.bytes (toString cycle))
  have hend := scribble_lineEnd hy "ok" (by decide) (hheld ▸ hemit)
  have hfresh : vendorForwarder.holding [] = vendorForwarder := rfl
  rw [hfresh] at hstart hend
  rw [vendorPieces, Act.bind_of_done _ hstart, Act.bind_of_done _ hnumber, Act.bind_of_done _ hblank]
  exact hend

/-- What the forwarder makes of the component's line. -/
theorem emit_vendor (cycle : Nat) :
    emit Facility.outlet vendorForwarder (Text.bytes (vendorText cycle)) y =
      Act.each (Cue.play c) ((fromVendor y.registry cycle).map .tell) y := by
  have hrecord : vendorForwarder.record (Text.bytes (vendorText cycle)) =
      entry .info Record.defaultCategory (vendorText cycle) := by
    rw [Forwarder.record, Text.ofBytes_bytes]
    rfl
  have hopen : vendorForwarder.isOpen (Facility.outlet.level vendorForwarder y) = true ↔
      .info ≤ y.registry.level := by
    have hlevel : vendorForwarder.isOpen (Facility.outlet.level vendorForwarder y) =
        decide (.info ≤ y.registry.level) := rfl
    rw [hlevel, decide_eq_true_iff]
  by_cases h : .info ≤ y.registry.level
  · rw [emit, if_pos (hopen.mpr h), fromVendor, if_pos h, List.map_singleton, Act.each_singleton, hrecord]
    rfl
  · rw [emit, if_neg (mt hopen.mp h), fromVendor, if_neg h]
    rfl

/-- The end of a redirection whose forwarder holds nothing puts the writer back that stood behind the
stream before, and remarks on it. -/
theorem giveUp_behind (hz : s.index < z.streams.items.size) {w : Writer} (hw : z.streams.get s = w) :
    Redirection.giveUp ⟨s, some w⟩ (Writer.behind s (vendorForwarder, z)) = Facility.carry restored z := by
  have hdisplaced : (Writer.behind s (vendorForwarder, z)).streams.get s = .forwarder vendorForwarder :=
    Facility.get_putWriter hz _
  have hback : (Writer.behind s (vendorForwarder, z)).putWriter s w = z := by
    rw [Writer.behind, Facility.putWriter_putWriter, ← hw, Facility.putWriter_get]
  simp only [Redirection.giveUp, Redirection.reset, hdisplaced, hback, Redirection.retire_forwarder]
  rfl

/-- The component's line comes down to the remarks on the redirection and to its record in between. -/
theorem vendorLine_performs (h : Stage c s x) (cycle : Nat) :
    Performs c (vendorLine s cycle) (vendorCues x.registry cycle) x := by
  obtain ⟨y, hstart, hy⟩ := h.play (q := .remark redirected) (mild_remark _)
  obtain ⟨z, htell, hz⟩ := hy.stage.each_play _ (mild_fromVendor x.registry cycle)
  obtain ⟨w, hend, -⟩ := hz.stage.play (q := .remark restored) (mild_remark _)
  have hcues : Act.each (Cue.play c) (vendorCues x.registry cycle) x = (.done (), w) := by
    rw [vendorCues, List.cons_append, Act.each_cons, Act.bind_of_done _ hstart, Act.each_append,
      Act.bind_of_done _ htell, Act.each_singleton, hend]
  have hline : emit Facility.outlet vendorForwarder (Text.bytes (vendorText cycle)) y = (.done (), z) := by
    rw [emit_vendor, hy.registry, htell]
  have hredirect : Redirection.start s vendorForwarder x =
      (.done ⟨s, some (y.streams.get s)⟩, Writer.behind s (vendorForwarder, y)) := by
    have hannounce : Redirection.announce vendorForwarder x = (.done (), y) := hstart
    rw [Redirection.start, Act.bind_run, Act.attempt, hannounce]
    rfl
  have hrestore : Redirection.giveUp ⟨s, some (y.streams.get s)⟩ (Writer.behind s (vendorForwarder, z)) =
      (.done (), w) :=
    (giveUp_behind hz.stage.stream (by rw [hz.streams])).trans hend
  have hvendor : vendorLine s cycle x =
      Act.ensure (vendorPieces s cycle) (Redirection.giveUp ⟨s, some (y.streams.get s)⟩)
        (Writer.behind s (vendorForwarder, y)) :=
    Act.bind_of_done _ hredirect
  rw [Performs, hcues, hvendor, Act.ensure_run, vendorPieces_behind hy.stage.stream hline]
  simp only [hrestore, Outcome.afterCleanup]

/-! ### A cycle -/

/-- What the processor says when it fetches. -/
def fetchText (cycle : Nat) : String := "fetch pc=0x" ++ hex8 (0x80000000 + 4 * cycle)

/-- The number of cycles whose fetch can be put in words: after these the counter would leave its
word. -/
def fetchable : Nat := 0x20000000

/-- The registry lets the records of the processor pass. -/
def ShowsFetches (r : Registry) : Prop := Statement.debug.verbosity ≤ r.verbosityFor (some "top.cpu")

/-- The fetches of the first cycles can be reported, as far as they are to be. -/
def Reportable (r : Registry) (cycles : Nat) : Prop := cycles ≤ fetchable ∨ ¬ ShowsFetches r

instance (r : Registry) : Decidable (ShowsFetches r) :=
  inferInstanceAs (Decidable (Statement.debug.verbosity ≤ r.verbosityFor (some "top.cpu")))

instance (r : Registry) (cycles : Nat) : Decidable (Reportable r cycles) :=
  inferInstanceAs (Decidable (cycles ≤ fetchable ∨ ¬ ShowsFetches r))

theorem Reportable.mono {r : Registry} {m n : Nat} (h : Reportable r n) (hle : m ≤ n) : Reportable r m :=
  h.imp_left (Nat.le_trans hle)

/-- The record of the processor. -/
def fetched (r : Registry) (cycle : Nat) : List Record := due r .debug "top.cpu" (fetchText cycle)

/-- The warning of the bus. -/
def warned (cycle : Nat) : List Record :=
  if cycle = 2 then [entry .warn "top.bus" "slave response delayed"] else []

/-- The records of the bus. -/
def onBus (r : Registry) (cycle : Nat) : List Record :=
  due r .trace "top.bus" ("request issued in cycle " ++ toString cycle) ++
    (due r .traceAll "top.bus" ("arbiter state idle=" ++ Text.flagText (cycle % 2 = 0)) ++ warned cycle)

/-- The cues of a cycle. -/
def cycleCues (r : Registry) (cycle : Nat) : List Cue :=
  (fetched r cycle).map .tell ++
    .tick :: ((onBus r cycle).map .tell ++ (vendorCues r cycle ++ [.advance cyclePeriod]))

theorem fetchMessage_of_lt {cycle : Nat} (h : cycle < fetchable) :
    fetchMessage cycle = .ok (fetchText cycle) := by
  have hsize : UInt32.size = 0x100000000 := rfl
  rw [fetchable] at h
  rw [fetchMessage, if_neg (by omega), if_neg (by omega), fetchText, Nat.mul_comm]

theorem mild_due (hk : k.severity ≠ .fatal) (r : Registry) :
    ∀ q ∈ due r k category message, q.severity ≠ .fatal := mild_ite hk

theorem mild_onBus (r : Registry) (cycle : Nat) : ∀ q ∈ onBus r cycle, q.severity ≠ .fatal :=
  List.forall_mem_append.mpr ⟨mild_due (by decide) r,
    List.forall_mem_append.mpr ⟨mild_due (by decide) r, mild_ite (by decide)⟩⟩

theorem mild_cycleCues (r : Registry) (cycle : Nat) : ∀ q ∈ cycleCues r cycle, q.Mild := by
  have hfetched : ∀ q ∈ (fetched r cycle).map Cue.tell, q.Mild := mild_tells (mild_due (by decide) r)
  have htick : Cue.tick.Mild := by simp [Cue.Mild, Cue.record?]
  have hadvance : ∀ q ∈ [Cue.advance cyclePeriod], q.Mild := by simp [Cue.Mild, Cue.record?]
  exact List.forall_mem_append.mpr ⟨hfetched, List.forall_mem_cons.mpr ⟨htick,
    List.forall_mem_append.mpr ⟨mild_tells (mild_onBus r cycle),
      List.forall_mem_append.mpr ⟨mild_vendorCues r cycle, hadvance⟩⟩⟩⟩

theorem fetch_performs {cycle : Nat} (hcycle : Reportable x.registry (cycle + 1)) :
    Performs c (say .debug "top.cpu" (fetchMessage cycle)) ((fetched x.registry cycle).map .tell) x := by
  by_cases hlt : cycle < fetchable
  · rw [fetchMessage_of_lt hlt]
    exact say_of_info rfl
  · have hnot : ¬ ShowsFetches x.registry := hcycle.resolve_left hlt
    have hdisabled : Statement.debug.isEnabled (some "top.cpu") x = false :=
      Bool.eq_false_iff.mpr fun h => hnot ((Statement.isEnabled_iff_of_info rfl _ x).mp h)
    have hnothing : fetched x.registry cycle = [] := if_neg hnot
    rw [Performs, say_of_disabled hdisabled, hnothing]
    rfl

/-- A cycle performs its cues, unless its fetch is to be reported and cannot be. -/
theorem simulateCycle_performs (h : Stage c s x) {cycle : Nat} (hcycle : Reportable x.registry (cycle + 1)) :
    Performs c (simulateCycle c s cycle) (cycleCues x.registry cycle) x := by
  rw [cycleCues, onBus, List.map_append, List.map_append, List.append_assoc, List.append_assoc, simulateCycle]
  refine (fetch_performs hcycle).bind fun y₁ hrun₁ => ?_
  have h₁ := h.played (mild_tells (mild_due (by decide) x.registry)) hrun₁
  refine (Performs.cue .tick).bind fun y₂ hrun₂ => ?_
  have h₂ := h₁.stage.played (by simp [Cue.Mild, Cue.record?]) hrun₂
  rw [← h₁.registry, ← h₂.registry]
  refine (say_of_info rfl).bind fun y₃ hrun₃ => ?_
  have h₃ := h₂.stage.played (mild_tells (mild_due (by decide) _)) hrun₃
  rw [← h₃.registry]
  refine (say_of_info rfl).bind fun y₄ hrun₄ => ?_
  have h₄ := h₃.stage.played (mild_tells (mild_due (by decide) _)) hrun₄
  rw [← h₄.registry]
  have hvendor {y : Facility} (hy : Stage c s y) :
      Performs c (vendorLine s cycle >>= fun _ => onClock c (Clock.advance cyclePeriod))
        (vendorCues y.registry cycle ++ [.advance cyclePeriod]) y :=
    (vendorLine_performs hy cycle).bind fun _ _ => .cue (.advance cyclePeriod)
  by_cases htwo : cycle = 2
  · have hwarned : (warned cycle).map Cue.tell = [.tell (entry .warn "top.bus" "slave response delayed")] := by
      rw [warned, if_pos htwo, List.map_singleton]
    rw [hwarned]
    simp only [if_pos htwo]
    refine (say_of_worse (by decide)).bind fun y₅ hrun₅ => ?_
    have h₅ := h₄.stage.played (by simp [Cue.Mild, Cue.record?, entry, Statement.severity]) hrun₅
    rw [← h₅.registry]
    exact hvendor h₅.stage
  · have hwarned : (warned cycle).map Cue.tell = [] := by rw [warned, if_neg htwo, List.map_nil]
    rw [hwarned, List.nil_append]
    simp only [if_neg htwo]
    exact hvendor h₄.stage

end Demo

end Logbook
