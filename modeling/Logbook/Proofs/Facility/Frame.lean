/-
# What reporting leaves alone

A record changes what stands at the end of its way: the sink, the backend with its files and its
console, the worker, the journal. It never changes what decides about the next record: the
registries, the process-wide sink and the open scopes (`Facility.bearings`); nor does it touch the
clocks, the buffers, the guests and the streams.

Key definitions: `Facility.Bearings`, `Facility.bearings`.
Key theorems: `Facility.report_keeps`, `Facility.deliver_keeps`.
-/
import Logbook.Facility.Report
import Logbook.Proofs.Act.Frame

namespace Logbook

namespace Table

variable {α : Type}

theorem get_put [Inhabited α] {t : Table α} {r : Ref α} (h : r.index < t.items.size) (a : α) :
    (t.put r a).get r = a := by
  simp [get, put, h]

theorem get_put_of_ne [Inhabited α] (t : Table α) {r q : Ref α} (h : r ≠ q) (a : α) :
    (t.put r a).get q = t.get q := by
  have hindex : r.index ≠ q.index := fun he => h (Ref.ext he)
  simp [get, put, Array.getD_eq_getD_getElem?, hindex]

/-- A write is read back, or changed nothing. -/
theorem get_put_cases [Inhabited α] (t : Table α) (r : Ref α) (a : α) :
    (t.put r a).get r = a ∨ (t.put r a).get r = t.get r := by
  by_cases hr : r.index < t.items.size
  · exact .inl (get_put hr a)
  · have hput : t.put r a = t := by simp [put, Array.setIfInBounds, hr]
    exact .inr (by rw [hput])

theorem put_put (t : Table α) (r : Ref α) (a b : α) : (t.put r a).put r b = t.put r b := by
  simp [put]

@[simp] theorem size_put (t : Table α) (r : Ref α) (a : α) :
    (t.put r a).items.size = t.items.size := by
  simp [put]

theorem get_update [Inhabited α] {t : Table α} {r : Ref α} (h : r.index < t.items.size)
    (f : α → α) : (t.update r f).get r = f (t.get r) := get_put h _

@[simp] theorem size_update [Inhabited α] (t : Table α) (r : Ref α) (f : α → α) :
    (t.update r f).items.size = t.items.size := size_put t r _

end Table

namespace Facility

/-- What decides about records, and what stands beside their way. -/
structure Bearings where
  registry : Registry
  registries : Table Registry
  globalSink : Option (Ref Sink)
  scopes : List (Ref Sink)
  clocks : Table Clock
  buffers : Table Buffer
  guests : Table Guest
  streams : Table Writer
  wall : String

/-- The bearings of a facility. -/
def bearings (x : Facility) : Bearings :=
  ⟨x.registry, x.registries, x.globalSink, x.scopes, x.clocks, x.buffers, x.guests, x.streams, x.wall⟩

theorem registryOf_bearings {x y : Facility} (h : x.bearings = y.bearings)
    (r : Option (Ref Registry)) : x.registryOf r = y.registryOf r := by
  have h₁ : x.registry = y.registry := congrArg Bearings.registry h
  have h₂ : x.registries = y.registries := congrArg Bearings.registries h
  cases r with
  | none => exact h₁
  | some r => simp only [registryOf, h₂]

theorem writeLogFile_bearings (b : Backend) (l : LogFile) (bs : List UInt8) (x : Facility) :
    (x.writeLogFile b l bs).bearings = x.bearings := by
  unfold writeLogFile
  split <;> rfl

theorem display_keeps (b : Backend) (e : Event) : Act.Keeps bearings (display b e) := by
  intro x
  simp only [display]
  split
  · rfl
  · split
    · rfl
    · split
      · rfl
      · rw [writeLogFile_bearings]; rfl

theorem carry_keeps (e : Event) : Act.Keeps bearings (carry e) := by
  intro x
  simp only [carry]
  split
  · rfl
  · rfl
  · split
    · exact display_keeps _ e x
    · rfl

theorem settleLines_bearings (s : Ref Sink) (k : LineSink) (t : Tally Buffer) (x : Facility) :
    (x.settleLines s k t).bearings = x.bearings := by
  simp only [settleLines]
  split <;> split <;> rfl

theorem settleLines_sinks (s : Ref Sink) (k : LineSink) (t : Tally Buffer) (x : Facility) :
    (x.settleLines s k t).sinks = x.sinks.put s (.lines { k with tally := t }) := by
  simp only [settleLines]
  split <;> split <;> rfl

theorem writeLine_keeps (s : Ref Sink) (k : LineSink) (r : Record) :
    Act.Keeps bearings (writeLine s k r) := by
  intro x
  simp only [writeLine]
  split
  · exact settleLines_bearings s k _ x
  · rfl

theorem runHook_bearings (s : Ref Sink) (k : EventSink) (x : Facility) :
    (x.runHook s k).bearings = x.bearings := by
  unfold runHook
  split <;> rfl

/-- What an event sink does behind the event: it has the last word on a fatal record. -/
def conclude (s : Ref Sink) (k : EventSink) (r : Record) : Act Facility Unit :=
  if r.severity = .fatal then do
    Act.modify (runHook s k)
    if k.action = .stop then Act.abort
  else pure ()

/-- An event sink passes on what it accepts, and then has its last word. -/
theorem pass_run (s : Ref Sink) (k : EventSink) (r : Record) (x : Facility) :
    pass s k r x =
      if x.accepts k r then (carry (.ofRecord r) >>= fun _ => conclude s k r) x else conclude s k r x := by
  simp only [pass, Act.bind_run, Act.inspect]
  split <;> rfl

theorem conclude_preserves {P : Facility → Prop} {s : Ref Sink} {k : EventSink}
    (hhook : ∀ x, P x → P (x.runHook s k)) (r : Record) {x : Facility} (hx : P x) :
    P (conclude s k r x).2 := by
  unfold conclude
  split
  · rw [Act.modify_bind]
    split <;> exact hhook x hx
  · exact hx

/-- What carrying an event and running a hook preserve, an event sink preserves. -/
theorem pass_preserves {P : Facility → Prop} {s : Ref Sink} {k : EventSink}
    (hcarry : ∀ e x, P x → P (carry e x).2) (hhook : ∀ x, P x → P (x.runHook s k)) (r : Record)
    {x : Facility} (hx : P x) : P (pass s k r x).2 := by
  rw [pass_run]
  split
  · have h := hcarry (.ofRecord r) x hx
    rw [Act.bind_run]
    generalize carry (.ofRecord r) x = c at h ⊢
    rcases c with ⟨_ | _ | _, y⟩
    · exact conclude_preserves hhook r h
    · exact h
    · exact h
  · exact conclude_preserves hhook r hx

theorem pass_keeps (s : Ref Sink) (k : EventSink) (r : Record) : Act.Keeps bearings (pass s k r) :=
  fun x => pass_preserves (P := fun y => y.bearings = x.bearings) (fun e y hy => (carry_keeps e y).trans hy)
    (fun y hy => (runHook_bearings s k y).trans hy) r rfl

/-- Reporting a record to a sink leaves the bearings as they are, however it ends. -/
theorem report_keeps (s : Ref Sink) (r : Record) : Act.Keeps bearings (report s r) := by
  intro x
  unfold report
  split
  · rfl
  · exact writeLine_keeps s _ r x
  · exact pass_keeps s _ r x

theorem dispatch_keeps (r : Record) : Act.Keeps bearings (dispatch r) := by
  intro x
  unfold dispatch
  split
  · exact report_keeps _ r x
  · exact carry_keeps _ x

theorem deliver_keeps (s : Option (Ref Sink)) (r : Record) : Act.Keeps bearings (deliver s r) := by
  cases s with
  | none => exact dispatch_keeps r
  | some s => exact report_keeps s r

end Facility

end Logbook
