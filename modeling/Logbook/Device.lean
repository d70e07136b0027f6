/-
# Byte devices

A device takes bytes and may take fewer than it is offered, or fail. `writeAll` offers what is left
again and again until everything is taken; a device that takes nothing at all is stuck. A buffer is
the device of this library: it keeps what it takes, takes at most a given number of bytes at a time,
and can be made to fail. A guest is a device from outside: it does as it likes.

Key definitions: `Fault`, `Device`, `Device.writeAll`, `Tally`, `Buffer`, `Buffer.device`, `Guest`.
-/
import Logbook.Act

namespace Logbook

/-- Why a device fails. -/
inductive Fault where
  | diskFull
  | deviceGone
  /-- A device that takes nothing. -/
  | stuck
  /-- Whatever a device from outside says. -/
  | other (message : String)
  deriving DecidableEq

/-- The wording of a failure. -/
def Fault.message : Fault → String
  | .diskFull => "disk full"
  | .deviceGone => "device gone"
  | .stuck => "failed to write whole buffer"
  | .other message => message

/-- What can be done with a device whose state is in `δ`. -/
structure Device (δ : Type) where
  /-- Takes some of the bytes, and says how many; a call that is interrupted is made again, and
  has no answer of its own. -/
  write : List UInt8 → δ → Except Fault Nat × δ
  /-- Passes on what the device holds back. -/
  flush : δ → Except Fault Unit × δ

namespace Device

variable {δ : Type}

/-- Writes all of the bytes. -/
def writeAll (d : Device δ) (bs : List UInt8) (s : δ) : Except Fault Unit × δ :=
  match bs with
  | [] => (.ok (), s)
  | b :: rest =>
    match d.write (b :: rest) s with
    | (.error e, s) => (.error e, s)
    | (.ok 0, s) => (.error .stuck, s)
    | (.ok (n + 1), s) => writeAll d (rest.drop n) s
  termination_by bs.length
  decreasing_by simp only [List.length_drop, List.length_cons]; omega

/-- Writes all of the bytes and passes them on. -/
def deliver (d : Device δ) (bs : List UInt8) (s : δ) : Except Fault Unit × δ :=
  match d.writeAll bs s with
  | (.error e, s) => (.error e, s)
  | (.ok (), s) => d.flush s

end Device

/-- A device and the number of deliveries to it that failed. The number has no bound; a counter of 64 bits
agrees with it in every run of fewer than `2 ^ 64` deliveries. -/
structure Tally (δ : Type) where
  device : δ
  failures : Nat
  deriving DecidableEq

/-- Delivers bytes, and counts a failure. -/
def Tally.deliver {δ : Type} (d : Device δ) (bs : List UInt8) (t : Tally δ) : Tally δ :=
  match d.deliver bs t.device with
  | (.ok (), s) => { t with device := s }
  | (.error _, s) => ⟨s, t.failures + 1⟩

/-- A device that keeps what it takes. -/
structure Buffer where
  content : Array UInt8
  /-- The most bytes it takes at a time; no limit at zero. -/
  chunk : Nat
  failsWrites : Bool
  failsFlushes : Bool
  deriving DecidableEq

namespace Buffer

/-- A buffer that takes everything. -/
def unlimited : Buffer := ⟨#[], 0, false, false⟩

instance : Inhabited Buffer := ⟨unlimited⟩

/-- Takes bytes. -/
def write (bs : List UInt8) (b : Buffer) : Except Fault Nat × Buffer :=
  if b.failsWrites then (.error .diskFull, b)
  else
    let taken := if b.chunk = 0 then bs else bs.take b.chunk
    (.ok taken.length, { b with content := b.content ++ taken })

/-- Has nothing to pass on. -/
def flush (b : Buffer) : Except Fault Unit × Buffer :=
  if b.failsFlushes then (.error .deviceGone, b) else (.ok (), b)

/-- Buffers as devices. -/
def device : Device Buffer := ⟨write, flush⟩

end Buffer

/-- How a call of a device from outside goes: it takes some of what it is offered, and then the call ends. -/
structure Guest.Answer where
  /-- The most bytes that it takes. -/
  room : Nat
  ending : Outcome (Except Fault Unit)

/-- A device from outside, which may take what it likes, fail, raise a message or stop the process. -/
structure Guest where
  /-- How its next calls go; the ones after that take everything. -/
  answers : List Guest.Answer
  /-- What it took. -/
  taken : Array UInt8

namespace Guest

instance : Inhabited Guest := ⟨⟨[], #[]⟩⟩

/-- How the next call goes, with so many bytes on offer. -/
def next (offered : Nat) (g : Guest) : Answer := g.answers.headD ⟨offered, .done (.ok ())⟩

/-- Calls a guest with some bytes, given how many of them it takes if the call goes in some way. -/
def call (bs : List UInt8) (portion : Answer → Nat) (g : Guest) : Outcome (Except Fault Nat) × Guest :=
  let answer := g.next bs.length
  let taken := bs.take (portion answer)
  (answer.ending.map (Except.map fun _ => taken.length), ⟨g.answers.tail, g.taken ++ taken⟩)

/-- Takes bytes, at most what it is offered; if it fails, it takes none. -/
def write (bs : List UInt8) : Guest → Outcome (Except Fault Nat) × Guest :=
  call bs fun answer =>
    match answer.ending with
    | .done (.error _) => 0
    | _ => answer.room

/-- Takes all of the bytes; if that does not come about, it may have taken a part of them. -/
def writeAll (bs : List UInt8) : Guest → Outcome (Except Fault Nat) × Guest :=
  call bs fun answer =>
    match answer.ending with
    | .done (.ok ()) => bs.length
    | _ => answer.room

/-- Passes on what it holds back. -/
def flush : Guest → Outcome (Except Fault Nat) × Guest := call [] fun _ => 0

end Guest

end Logbook
