/-
# What writing leaves alone

A write to a stream can end in a report, in a buffer, with a guest or on the console. The registries, the
process-wide sink, the open scopes, the clocks and the streams stay as they are (`Facility.ground`), and
so they do when a writer is flushed or given up. A forwarder leaves the buffers and the guests alone
as well.

Key definitions: `Facility.ground`.
Key theorems: `Writer.write_keeps`, `Writer.giveUp_keeps`, `Redirection.retire_keeps`.
-/
import Logbook.Facility.Stream
import Logbook.Proofs.Facility.Frame

namespace Logbook

open Act (Keeps)

open Facility (bearings)

/-- The bearings of a facility without its buffers and guests. -/
def Facility.ground (x : Facility) : Bearings :=
  { x.bearings with buffers := .empty, guests := .empty }

open Facility (ground)

theorem Facility.ground_of_bearings {x y : Facility} (h : x.bearings = y.bearings) :
    x.ground = y.ground := by
  rw [ground, ground, h]

/-- The bearings of the facility beside a forwarder. -/
def bearingsBeside {α : Type} (p : α × Facility) : Facility.Bearings := p.2.bearings

/-- The ground of the facility beside a writer or a redirection. -/
def groundBeside {α : Type} (p : α × Facility) : Facility.Bearings := p.2.ground

namespace Forwarder

theorem emit_keeps (f : Forwarder) (line : List UInt8) :
    Keeps bearings (emit Facility.outlet f line) := by
  intro x
  unfold emit
  split
  · exact Facility.deliver_keeps _ _ x
  · rfl

theorem write_keeps (bs : List UInt8) : Keeps bearingsBeside (write Facility.outlet bs) := by
  rintro ⟨f, x⟩
  have h := Keeps.each (emit_keeps f) (cutLines f.pending bs).1 x
  simp only [write]
  rcases hr : Act.each (emit Facility.outlet f) (cutLines f.pending bs).1 x with ⟨_ | _ | _, y⟩ <;>
    rw [hr] at h <;> exact h

theorem flush_keeps : Keeps bearingsBeside (flush Facility.outlet) := by
  rintro ⟨f, x⟩
  simp only [flush]
  split
  · rfl
  · exact emit_keeps f f.pending x

end Forwarder

namespace Writer

theorem settle_ground (b : Ref Buffer) (new : Buffer) (x : Facility) :
    (settle b new x).ground = x.ground := by
  simp only [settle]
  split <;> rfl

theorem write_keeps (bs : List UInt8) : Keeps groundBeside (write bs) := by
  rintro ⟨w, x⟩
  cases w with
  | forwarder f => exact Facility.ground_of_bearings (Forwarder.write_keeps bs (f, x))
  | buffer b => exact settle_ground b _ x
  | guest g => rfl
  | discard => rfl
  | console => rfl

theorem writeAll_keeps (bs : List UInt8) : Keeps groundBeside (writeAll bs) := by
  rintro ⟨w, x⟩
  cases w with
  | forwarder f =>
    simp only [writeAll]
    split
    · rfl
    · exact Facility.ground_of_bearings (Forwarder.write_keeps bs (f, x))
  | buffer b => exact settle_ground b _ x
  | guest g => rfl
  | discard => rfl
  | console => rfl

theorem flush_keeps : Keeps groundBeside flush := by
  rintro ⟨w, x⟩
  cases w with
  | forwarder f => exact Facility.ground_of_bearings (Forwarder.flush_keeps (f, x))
  | buffer b => exact settle_ground b _ x
  | guest g => rfl
  | discard => rfl
  | console => rfl

/-- Giving a writer up does not touch the buffers either. -/
theorem giveUp_keeps (w : Writer) : Keeps bearings (giveUp w) := by
  intro x
  cases w with
  | forwarder f => exact Forwarder.flush_keeps (f, x)
  | buffer b => rfl
  | guest g => rfl
  | discard => rfl
  | console => rfl

end Writer

namespace Redirection

theorem announce_keeps (f : Forwarder) : Keeps bearings (announce f) := Facility.carry_keeps _

theorem farewell_keeps (e : Except Fault Unit) : Keeps bearings (farewell e) := by
  cases e with
  | ok _ => exact Facility.carry_keeps _
  | error e => exact (Facility.carry_keeps _).bind fun _ => Facility.carry_keeps _

theorem retire_keeps (w : Writer) : Keeps ground (retire w) := by
  intro x
  have hflush : (Writer.flush (w, x)).2.2.ground = x.ground := Writer.flush_keeps (w, x)
  simp only [retire]
  rw [← hflush]
  refine Keeps.ensure ?_
    ((Writer.giveUp_keeps _).map fun b => { b with buffers := .empty, guests := .empty }) _
  split
  · exact (farewell_keeps _).map fun b => { b with buffers := .empty, guests := .empty }
  · exact .raise _
  · exact .abort

end Redirection

end Logbook
