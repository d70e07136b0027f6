/-
# Streams

Components write to a stream without knowing what stands behind it, and what stands behind it can be
exchanged at any time. A redirection puts a forwarder behind a stream and holds the writer that it
displaced. When it ends it puts that writer back; the writer that stood there by then, whatever it
is, is flushed and given up. It ends once: later tries do nothing.

Key definitions: `Writer.write`, `Writer.writeAll`, `Writer.flush`, `Writer.giveUp`,
`Facility.onStream`, `Redirection`, `Redirection.start`, `Redirection.reset`.
-/
import Logbook.Facility.Report

namespace Logbook

namespace Writer

/-- A facility in which a buffer has been written to. -/
def settle (b : Ref Buffer) (new : Buffer) (x : Facility) : Facility :=
  let written := (new.content.extract (x.buffers.get b).content.size new.content.size).toList
  let x := { x with buffers := x.buffers.put b new }
  if written.isEmpty then x else x.note (.stored b written)

/-- Runs an action on the forwarder that is a writer. -/
def onForwarder {α β : Type} (f : Forwarder) (act : Act (Forwarder × Facility) α) (g : α → β)
    (x : Facility) : Outcome β × (Writer × Facility) :=
  let r := act (f, x)
  (r.1.map g, (.forwarder r.2.1, r.2.2))

/-- Runs an action on the guest that is a writer. -/
def onGuest {α : Type} (g : Ref Guest) (act : Guest → Outcome (Except Fault Nat) × Guest) (f : Nat → α)
    (x : Facility) : Outcome (Except Fault α) × (Writer × Facility) :=
  let r := act (x.guests.get g)
  (r.1.map (Except.map f), (.guest g, { x with guests := x.guests.put g r.2 }))

/-- Writes bytes once, and says how many were taken. -/
def write (bs : List UInt8) : Act (Writer × Facility) (Except Fault Nat) := fun (w, x) =>
  match w with
  | .forwarder f => onForwarder f (Forwarder.write Facility.outlet bs) .ok x
  | .buffer b =>
    let r := (x.buffers.get b).write bs
    (.done r.1, (w, settle b r.2 x))
  | .guest g => onGuest g (Guest.write bs) id x
  | .discard => (.done (.ok bs.length), (w, x))
  | .console => (.done (.ok bs.length), (w, x.print bs))

/-- Writes all of the bytes; no bytes at all are not written. -/
def writeAll (bs : List UInt8) : Act (Writer × Facility) (Except Fault Unit) := fun (w, x) =>
  match w with
  | .forwarder f =>
    if bs.isEmpty then (.done (.ok ()), (w, x))
    else onForwarder f (Forwarder.write Facility.outlet bs) (fun _ => .ok ()) x
  | .buffer b =>
    let r := Buffer.device.writeAll bs (x.buffers.get b)
    (.done r.1, (w, settle b r.2 x))
  | .guest g => onGuest g (Guest.writeAll bs) (fun _ => ()) x
  | .discard => (.done (.ok ()), (w, x))
  | .console => (.done (.ok ()), (w, x.print bs))

/-- Passes on what is held back. -/
def flush : Act (Writer × Facility) (Except Fault Unit) := fun (w, x) =>
  match w with
  | .forwarder f => onForwarder f (Forwarder.flush Facility.outlet) .ok x
  | .buffer b =>
    let r := (x.buffers.get b).flush
    (.done r.1, (w, settle b r.2 x))
  | .guest g => onGuest g Guest.flush (fun _ => ()) x
  | .discard | .console => (.done (.ok ()), (w, x))

/-- Gives a writer up: a forwarder cuts what is pending. -/
def giveUp (w : Writer) : Act Facility Unit := fun x =>
  match w with
  | .forwarder f =>
    let r := Forwarder.flush Facility.outlet (f, x)
    (r.1, r.2.2)
  | _ => (.done (), x)

end Writer

namespace Facility

/-- Puts a writer behind a stream. -/
def putWriter (s : Ref Writer) (w : Writer) (x : Facility) : Facility :=
  { x with streams := x.streams.put s w }

/-- Exchanges the writer behind a stream. -/
def replaceWriter (s : Ref Writer) (w : Writer) : Act Facility Writer := fun x =>
  (.done (x.streams.get s), x.putWriter s w)

/-- Runs an action on the writer behind a stream. -/
def onStream {α : Type} (s : Ref Writer) (act : Act (Writer × Facility) α) : Act Facility α :=
  fun x =>
    let r := act (x.streams.get s, x)
    (r.1, r.2.2.putWriter s r.2.1)

end Facility

/-- A stream with a forwarder behind it, and the writer that was there before; none when the
redirection has ended. -/
structure Redirection where
  stream : Ref Writer
  previous : Option Writer
  deriving DecidableEq

namespace Redirection

/-- A remark of a stream about itself. -/
def remark (message : String) (fields : List Field) : Act Facility Unit :=
  Facility.carry (.remark Event.streamTarget message fields)

/-- Remarks that a stream is about to be redirected. -/
def announce (f : Forwarder) : Act Facility Unit :=
  remark "redirecting stream into report pipeline" [("level", .shown f.level.name)]

/-- Redirects a stream into a forwarder, which is given up if that does not come about. -/
def start (s : Ref Writer) (f : Forwarder) : Act Facility Redirection := do
  match ← Act.attempt (announce f) with
  | .ok () =>
    let previous ← Facility.replaceWriter s (.forwarder f)
    pure ⟨s, some previous⟩
  | .error m => Act.ensure (Act.raise m) (Writer.giveUp (.forwarder f))

/-- Remarks that a redirection has ended, given how the displaced writer took its last flush. -/
def farewell : Except Fault Unit → Act Facility Unit
  | .ok () => remark "stream redirection reset" []
  | .error e => do
    remark "flushing the redirected writer failed" [("error", .shown e.message)]
    remark "stream redirection reset" []

/-- Flushes and gives up a writer that a redirection's end has displaced. -/
def retire (w : Writer) : Act Facility Unit := fun x =>
  let r := Writer.flush (w, x)
  let after : Act Facility Unit :=
    match r.1 with
    | .done e => farewell e
    | .raised m => Act.raise m
    | .aborted => Act.abort
  Act.ensure after (Writer.giveUp r.2.1) r.2.2

/-- Whether a redirection has not ended. -/
def isActive (r : Redirection) : Bool := r.previous.isSome

/-- Ends a redirection. -/
def reset : Act (Redirection × Facility) Unit := fun (r, x) =>
  match r.previous with
  | none => (.done (), (r, x))
  | some previous =>
    let displaced := x.streams.get r.stream
    let done := retire displaced (x.putWriter r.stream previous)
    (done.1, ({ r with previous := none }, done.2))

/-- Gives a redirection up, which ends it. -/
def giveUp (r : Redirection) : Act Facility Unit := fun x =>
  let done := reset (r, x)
  (done.1, done.2.2)

/-- The description of a redirection. -/
def describe (r : Redirection) : String :=
  Text.braced "StreamRedirection" [("active", Text.flagText r.isActive)] true

end Redirection

/-- The description of a stream. -/
def streamDescription : String := Text.braced "SharedStream" [] true

end Logbook
