/-
# What a memory sink keeps

A memory sink keeps the records that are reported to it, in order, and reports to other sinks do not
touch it, however they end. So what it holds after a forwarder has heard something are the records of
the segments that were cut while the gate was open, if the forwarder's records go to that sink.

Key definitions: `Facility.Remembers`, `Forwarder.recordsTo`.
Key theorems: `Facility.report_remembers`, `Forwarder.each_hear_remembers`.
-/
import Logbook.Proofs.Facility.Routing
import Logbook.Proofs.Forwarder.Hearing

namespace Logbook

namespace Facility

/-- There is a memory sink that holds just these records. -/
def Remembers (k : Ref Sink) (rs : Array Record) (x : Facility) : Prop :=
  k.index < x.sinks.items.size ∧ x.sinks.get k = .memory rs

theorem remembers_of_sinks {k : Ref Sink} {rs : Array Record} {x y : Facility}
    (hy : y.sinks = x.sinks) (hx : x.Remembers k rs) : y.Remembers k rs := by
  rwa [Remembers, hy]

theorem Remembers.putSink_of_ne {s k : Ref Sink} {rs : Array Record} {x : Facility}
    (hx : x.Remembers k rs) (hs : s ≠ k) (a : Sink) : (x.putSink s a).Remembers k rs := by
  refine ⟨by simpa [putSink] using hx.1, ?_⟩
  rw [putSink, Table.get_put_of_ne _ hs]
  exact hx.2

theorem display_sinks (b : Backend) (e : Event) : Act.Keeps sinks (display b e) := by
  intro x
  simp only [display]
  split
  · rfl
  · split
    · rfl
    · split
      · rfl
      · simp only [writeLogFile]
        split <;> rfl

theorem carry_sinks (e : Event) : Act.Keeps sinks (carry e) := by
  intro x
  simp only [carry]
  split
  · rfl
  · rfl
  · split
    · exact display_sinks _ e x
    · rfl

theorem settleLines_remembers {s k : Ref Sink} {rs : Array Record} {x : Facility}
    (hx : x.Remembers k rs) (hs : s ≠ k) (l : LineSink) (t : Tally Buffer) :
    (x.settleLines s l t).Remembers k rs :=
  remembers_of_sinks (settleLines_sinks s l t x) (hx.putSink_of_ne hs (.lines { l with tally := t }))

theorem runHook_remembers {s k : Ref Sink} {rs : Array Record} {x : Facility}
    (hx : x.Remembers k rs) (hs : s ≠ k) (e : EventSink) : (x.runHook s e).Remembers k rs := by
  unfold runHook
  split
  · exact remembers_of_sinks rfl (hx.putSink_of_ne hs _)
  · exact remembers_of_sinks rfl hx
  · exact hx

theorem pass_remembers {s k : Ref Sink} {rs : Array Record} {x : Facility}
    (hx : x.Remembers k rs) (hs : s ≠ k) (e : EventSink) (r : Record) :
    (pass s e r x).2.Remembers k rs :=
  pass_preserves (fun event y hy => remembers_of_sinks (carry_sinks event y) hy)
    (fun _ hy => runHook_remembers hy hs e) r hx

/-- A memory sink keeps what is reported to it, and nothing else. -/
theorem report_remembers {k : Ref Sink} {rs : Array Record} {x : Facility} (hx : x.Remembers k rs)
    (s : Ref Sink) (r : Record) :
    (report s r x).2.Remembers k (if s = k then rs.push r else rs) := by
  by_cases hs : s = k
  · subst hs
    rw [if_pos rfl]
    simp only [report, hx.2]
    refine ⟨by simpa [remember, note, putSink] using hx.1, ?_⟩
    simp only [remember, note, putSink, Table.get_put hx.1]
  · rw [if_neg hs]
    unfold report
    split
    · exact remembers_of_sinks rfl (hx.putSink_of_ne hs _)
    · simp only [writeLine]
      split
      · exact settleLines_remembers hx hs _ _
      · exact hx
    · exact pass_remembers hx hs _ r

/-- A memory sink keeps a record that is delivered if the record's way ends there. -/
theorem deliver_remembers {k : Ref Sink} {rs : Array Record} {x : Facility}
    (hx : x.Remembers k rs) (given : Option (Ref Sink)) (r : Record) :
    (deliver given r x).2.Remembers k
      (if x.destination x.scopes given = some k then rs.push r else rs) := by
  rw [deliver_eq_post, post]
  cases hd : x.destination x.scopes given with
  | none => exact remembers_of_sinks (carry_sinks _ x) (by simpa using hx)
  | some s => simpa using report_remembers hx s r

theorem destination_of_ground {x y : Facility} (h : x.ground = y.ground)
    (given : Option (Ref Sink)) :
    x.destination x.scopes given = y.destination y.scopes given := by
  have hscopes : x.scopes = y.scopes := congrArg Bearings.scopes h
  have hsink : x.globalSink = y.globalSink := congrArg Bearings.globalSink h
  simp only [destination, hscopes, hsink]

end Facility

namespace Forwarder

/-- The records that a sink gets of what a forwarder cuts: one for each segment that is cut while the
gate is open, if the forwarder's records go to that sink. -/
def recordsTo (k : Ref Sink) (x : Facility) (f : Forwarder) (cuts : List (List UInt8 × Level)) :
    List Record :=
  if x.destination x.scopes f.sink = some k then
    cuts.filterMap fun c => (Deed.cut c.1 c.2).record? f
  else []

theorem recordsTo_congr {x y : Facility} {f : Forwarder}
    (h : x.destination x.scopes f.sink = y.destination y.scopes f.sink) (k : Ref Sink)
    (cuts : List (List UInt8 × Level)) : recordsTo k x f cuts = recordsTo k y f cuts := by
  simp only [recordsTo, h]

theorem recordsTo_append (k : Ref Sink) (x : Facility) (f : Forwarder)
    (cuts cuts' : List (List UInt8 × Level)) :
    recordsTo k x f (cuts ++ cuts') = recordsTo k x f cuts ++ recordsTo k x f cuts' := by
  unfold recordsTo
  split
  · exact List.filterMap_append
  · rfl

theorem perform_remembers {k : Ref Sink} {rs : Array Record} {x : Facility}
    (hx : x.Remembers k rs) (f : Forwarder) (c : List UInt8 × Level) :
    ((Deed.cut c.1 c.2).perform f x).2.Remembers k (rs ++ (recordsTo k x f [c]).toArray) := by
  have hsame : rs ++ ([] : List Record).toArray = rs := by simp
  by_cases ho : f.level ≠ .off ∧ f.level ≤ c.2
  · have hdeliver := Facility.deliver_remembers hx f.sink (f.reported c.1)
    simp only [Deed.perform, if_pos ho, recordsTo, List.filterMap_cons, List.filterMap_nil,
      Deed.record?]
    by_cases hd : x.destination x.scopes f.sink = some k
    · rw [if_pos hd] at hdeliver ⊢
      simpa using hdeliver
    · rw [if_neg hd] at hdeliver ⊢
      rwa [hsame]
  · have hnone : recordsTo k x f [c] = [] := by simp [recordsTo, Deed.record?, ho]
    rw [hnone, hsame, Deed.perform, if_neg ho]
    exact hx

/-- What a memory sink holds after a forwarder has heard something. -/
theorem each_hear_remembers {k : Ref Sink} {rs : Array Record} (f : Forwarder) (held : List UInt8)
    (ts : List Tick) {x : Facility} (hx : x.Remembers k rs) :
    let r := Act.each (hear f held) ts (Heard.nothing, x)
    r.2.2.Remembers k (rs ++ (recordsTo k x f r.2.1.cuts).toArray) := by
  refine (Act.each_preserves (P := fun p : Heard × Facility => p.2.ground = x.ground ∧
    p.2.Remembers k (rs ++ (recordsTo k x f p.1.cuts).toArray)) ?_ ts
    ⟨rfl, by simpa [Heard.nothing, recordsTo] using hx⟩).2
  rintro t ⟨h, y⟩ ⟨hground, hmem⟩
  refine ⟨(Facility.ground_of_bearings (hear_keeps f held t (h, y))).trans hground, ?_⟩
  simp only [hear]
  split
  · exact hmem
  · rename_i segment _
    have hnext := perform_remembers hmem f (segment, y.levelFor f)
    rw [recordsTo_congr (Facility.destination_of_ground hground f.sink)] at hnext
    rw [recordsTo_append, ← List.append_toArray, ← Array.append_assoc]
    exact hnext

end Forwarder

end Logbook
