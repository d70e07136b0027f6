/-
# The segments of written text

What a forwarder is told is a history of bytes, flushes and changes of the level of the registry it
follows; where one write ends and the next begins leaves no trace in it. The history is *cut* at
every newline, and at every flush before which a byte has come since the previous cut. A segment is
what lies between two cuts, without the newline. What comes after the last cut is held.

This is the specification that the run of a forwarder is compared with: it reads one happening after
the other and knows nothing of buffers.

Key definitions: `Tick`, `Deed`, `since`, `deeds`, `Forwarder.reported`.
Key theorems: `deeds_append`, `deeds_bytes`, `newline_notMem_since`.
-/
import Logbook.Forwarder

namespace Logbook

namespace Forwarder

/-- What a forwarder can be told. -/
inductive Tick where
  | byte (b : UInt8)
  | flush
  /-- The registry that it follows changes its level. -/
  | level (l : Level)

/-- What a history comes to. -/
inductive Deed where
  /-- A segment is cut while the registry is at a level. -/
  | cut (segment : List UInt8) (l : Level)
  /-- The registry changes its level. -/
  | turn (l : Level)

/-- The bytes since the last cut, with those that were held before. -/
def since (held : List UInt8) : List Tick → List UInt8
  | [] => held
  | .byte b :: ts => if b = newline then since [] ts else since (held ++ [b]) ts
  | .flush :: ts => since [] ts
  | .level _ :: ts => since held ts

/-- The level after a history. -/
def levelAfter (l : Level) : List Tick → Level
  | [] => l
  | .byte _ :: ts => levelAfter l ts
  | .flush :: ts => levelAfter l ts
  | .level l' :: ts => levelAfter l' ts

/-- What a history comes to, in order: its segments, each with the level at the moment of its cut,
and the changes of the level. -/
def deeds (held : List UInt8) (l : Level) : List Tick → List Deed
  | [] => []
  | .byte b :: ts => if b = newline then .cut held l :: deeds [] l ts else deeds (held ++ [b]) l ts
  | .flush :: ts => if held = [] then deeds [] l ts else .cut held l :: deeds [] l ts
  | .level l' :: ts => .turn l' :: deeds held l' ts

theorem since_append : ∀ (ts us : List Tick) (held : List UInt8),
    since held (ts ++ us) = since (since held ts) us
  | [], _, _ => rfl
  | .byte b :: ts, us, held => by
    simp only [List.cons_append, since]
    split <;> exact since_append ts us _
  | .flush :: ts, us, _ => since_append ts us []
  | .level _ :: ts, us, held => since_append ts us held

theorem levelAfter_append : ∀ (ts us : List Tick) (l : Level),
    levelAfter l (ts ++ us) = levelAfter (levelAfter l ts) us
  | [], _, _ => rfl
  | .byte _ :: ts, us, l => levelAfter_append ts us l
  | .flush :: ts, us, l => levelAfter_append ts us l
  | .level l' :: ts, us, _ => levelAfter_append ts us l'

/-- A history can be read in parts, the held bytes and the level being handed on. -/
theorem deeds_append : ∀ (ts us : List Tick) (held : List UInt8) (l : Level),
    deeds held l (ts ++ us) = deeds held l ts ++ deeds (since held ts) (levelAfter l ts) us
  | [], _, _, _ => rfl
  | .byte b :: ts, us, held, l => by
    simp only [List.cons_append, deeds, since, levelAfter]
    split
    · rw [deeds_append ts us, List.cons_append]
    · exact deeds_append ts us _ _
  | .flush :: ts, us, held, l => by
    simp only [List.cons_append, deeds, since, levelAfter]
    split
    · exact deeds_append ts us _ _
    · rw [deeds_append ts us, List.cons_append]
  | .level l' :: ts, us, held, _ => by
    simp only [List.cons_append, deeds, since, levelAfter, deeds_append ts us held l']

/-- What is held never has a newline in it. -/
theorem newline_notMem_since : ∀ (ts : List Tick) {held : List UInt8},
    newline ∉ held → newline ∉ since held ts
  | [], _, h => h
  | .byte b :: ts, held, h => by
    simp only [since]
    split
    · exact newline_notMem_since ts List.not_mem_nil
    · rename_i hb
      refine newline_notMem_since ts fun hm => ?_
      rcases List.mem_append.mp hm with hm | hm
      · exact h hm
      · exact hb (List.mem_singleton.mp hm).symm
  | .flush :: ts, _, _ => newline_notMem_since ts List.not_mem_nil
  | .level _ :: ts, _, h => newline_notMem_since ts h

/-! ### Written bytes

The lines that a write cuts off are its segments, and what it leaves over is held. -/

theorem since_bytes : ∀ (bs held : List UInt8), since held (bs.map .byte) = (cutLines held bs).2
  | [], held => by simp [since]
  | b :: bs, held => by
    rw [cutLines_cons, List.map_cons, since]
    split
    · exact since_bytes bs []
    · exact since_bytes bs _

theorem levelAfter_bytes (l : Level) : ∀ bs : List UInt8, levelAfter l (bs.map .byte) = l
  | [] => rfl
  | _ :: bs => levelAfter_bytes l bs

theorem deeds_bytes (l : Level) : ∀ (bs held : List UInt8),
    deeds held l (bs.map .byte) = (cutLines held bs).1.map fun line => .cut line l
  | [], held => by simp [deeds]
  | b :: bs, held => by
    rw [cutLines_cons, List.map_cons, deeds]
    split
    · rw [deeds_bytes l bs [], List.map_cons]
    · exact deeds_bytes l bs _

/-! ### The record of a segment -/

/-- The record that stands for a segment. Its severity is the one that has the name of the level,
and info for the levels that no severity is named for; its verbosity is the threshold of the level,
and that of info for the levels below. -/
def reported (f : Forwarder) (segment : List UInt8) : Record where
  severity := (Severity.ofLabel? f.level.name).getD .info
  category := f.category.getD "SystemC"
  message := Text.ofBytes segment
  verbosity := (Level.max .info f.level).verbosity
  site := f.site

theorem standing_eq (l : Level) :
    l.standing = ((Severity.ofLabel? l.name).getD .info, (Level.max .info l).verbosity) := by
  cases l <;> decide

theorem record_eq_reported (f : Forwarder) (line : List UInt8) : f.record line = f.reported line := by
  simp only [record, reported, standing_eq, Record.defaultCategory]

end Forwarder

end Logbook
