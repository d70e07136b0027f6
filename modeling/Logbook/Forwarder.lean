/-
# Line forwarders

Plain text that some component writes becomes records, one for each line. A forwarder keeps the
bytes since the last cut and cuts at every newline, and also when it is flushed or given up and
something is pending. A cut makes a record when the gate is open: when the forwarder has a level
and the registry it follows is at least that talkative. Otherwise what was cut is gone.

A forwarder works on any state that can tell the level of its registry and take its records
(`Outlet`); when a record raises a message, the line is gone, and so is the rest of what was being
written.

Key definitions: `cutLines`, `Forwarder`, `Outlet`, `Forwarder.write`, `Forwarder.flush`.
-/
import Logbook.Act
import Logbook.Sink
import Logbook.Text.Quoted

namespace Logbook

/-- The newline. -/
def newline : UInt8 := 0x0a

/-- Cuts bytes at every newline: the lines, and what comes after the last of them; `line` is what
has been read of the first line, in reverse. -/
def cutFrom (line : List UInt8) : List UInt8 → List (List UInt8) × List UInt8
  | [] => ([], line.reverse)
  | b :: bs =>
    if b = newline then
      let rest := cutFrom [] bs
      (line.reverse :: rest.1, rest.2)
    else cutFrom (b :: line) bs

/-- Cuts bytes at every newline, after the bytes that are held already: the lines, and what is
held afterwards. -/
def cutLines (held bs : List UInt8) : List (List UInt8) × List UInt8 := cutFrom held.reverse bs

@[simp] theorem cutLines_nil (held : List UInt8) : cutLines held [] = ([], held) := by
  simp [cutLines, cutFrom]

theorem cutLines_cons (held bs : List UInt8) (b : UInt8) :
    cutLines held (b :: bs) =
      if b = newline then (held :: (cutLines [] bs).1, (cutLines [] bs).2)
      else cutLines (held ++ [b]) bs := by
  simp [cutLines, cutFrom]

/-- What turns written text into records; it follows the process-wide registry if none is given,
and its records go wherever records go if no sink is given. -/
structure Forwarder where
  level : Level
  /-- The bytes since the last cut. -/
  pending : List UInt8
  category : Option String
  registry : Option (Ref Registry)
  sink : Option (Ref Sink)
  /-- The place that its records give. -/
  site : Site
  deriving DecidableEq

/-- The severity and the verbosity of the records that stand for a level. -/
def Level.standing : Level → Severity × Verbosity
  | .fatal => (.fatal, .medium)
  | .error => (.error, .medium)
  | .warning => (.warning, .medium)
  | .off | .info => (.info, .medium)
  | .debug => (.info, .high)
  | .trace => (.info, .full)
  | .traceAll => (.info, .debug)

/-- What a forwarder needs of the state around it. -/
structure Outlet (σ : Type) where
  /-- The global level of the registry that the forwarder follows. -/
  level : Forwarder → σ → Level
  /-- Takes a record to the forwarder's sink. -/
  report : Forwarder → Record → Act σ Unit

namespace Forwarder

variable {σ : Type}

/-- A forwarder at its start. -/
def ofLevel (l : Level) (site : Site) : Forwarder := ⟨l, [], none, none, none, site⟩

/-- Whether lines become records while the registry is at a level. -/
def isOpen (f : Forwarder) (global : Level) : Bool := f.level != .off && f.level ≤ global

/-- The record of a line. -/
def record (f : Forwarder) (line : List UInt8) : Record where
  severity := f.level.standing.1
  category := f.category.getD Record.defaultCategory
  message := Text.ofBytes line
  verbosity := f.level.standing.2
  site := f.site

/-- Cuts a line. -/
def emit (o : Outlet σ) (f : Forwarder) (line : List UInt8) : Act σ Unit := fun s =>
  if f.isOpen (o.level f s) then o.report f (f.record line) s else (.done (), s)

/-- Writes bytes, and says how many. -/
def write (o : Outlet σ) (bs : List UInt8) : Act (Forwarder × σ) Nat := fun (f, s) =>
  let cut := cutLines f.pending bs
  match Act.each (emit o f) cut.1 s with
  | (.done (), s) => (.done bs.length, ({ f with pending := cut.2 }, s))
  | (.raised m, s) => (.raised m, ({ f with pending := [] }, s))
  | (.aborted, s) => (.aborted, ({ f with pending := [] }, s))

/-- Cuts what is pending, if anything is. Giving a forwarder up does the same. -/
def flush (o : Outlet σ) : Act (Forwarder × σ) Unit := fun (f, s) =>
  if f.pending.isEmpty then (.done (), (f, s))
  else
    let r := emit o f f.pending s
    (r.1, ({ f with pending := [] }, r.2))

/-- The description of a forwarder. -/
def describe (f : Forwarder) : String :=
  Text.braced "LineForwarder"
    [("level", f.level.word),
     ("pending", Text.quoted (Text.ofBytes f.pending)),
     ("category", Text.someText (f.category.map Text.quoted)),
     ("registry", Text.flagText f.registry.isSome),
     ("sink", Text.flagText f.sink.isSome)] false

end Forwarder

end Logbook
