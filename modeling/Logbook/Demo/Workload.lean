/-
# The workload of the demo

A toy simulation: in each cycle a processor fetches, a bus takes the request and shows its arbiter,
and a component that knows nothing of the log writes a line to a stream that is redirected while it
writes. A cycle lasts ten nanoseconds. The processor's counter is a word of 32 bits; a fetch whose
counter would leave it cannot be reported.

Key definitions: `cyclePeriod`, `fetchMessage`, `simulateCycle`, `simulate`.
-/
import Logbook.Facility.Statement
import Logbook.Facility.Stream

namespace Logbook.Demo

/-- The length of a cycle in nanoseconds. -/
def cyclePeriod : Nat := 10

/-- A number with eight hexadecimal digits. -/
def hex8 (n : Nat) : String := String.ofList (Text.padStart 8 '0' (Text.hex n))

/-- What the processor says when it fetches. -/
def fetchMessage (cycle : Nat) : Except String String :=
  if UInt32.size ≤ cycle * 4 then .error "attempt to multiply with overflow"
  else if UInt32.size ≤ 0x80000000 + cycle * 4 then .error "attempt to add with overflow"
  else .ok ("fetch pc=0x" ++ hex8 (0x80000000 + cycle * 4))

/-- The place that the records of the workload give. It stands for the places of the calls in the text of a
program, which differ from call to call; no line of the demo shows a place, and nothing is decided by one. -/
def site : Site := ⟨"workload", 0⟩

/-- Runs a statement of a model. -/
def say (k : Statement) (category : String) (message : Except String String) :
    Act Facility Unit := do
  let _ ← k.runWith site (some category) message

/-- Changes a clock. -/
def onClock (c : Ref Clock) (f : Clock → Clock) : Act Facility Unit :=
  Act.modify fun x => { x with clocks := x.clocks.update c f }

/-- Writes text to a stream; nobody looks at what comes of it. -/
def scribble (s : Ref Writer) (text : String) : Act Facility Unit := do
  let _ ← Facility.onStream s (Writer.writeAll (Text.bytes text))

/-- Lets the component write its line while the stream is redirected. -/
def vendorLine (s : Ref Writer) (cycle : Nat) : Act Facility Unit := do
  let r ← Redirection.start s (.ofLevel .info site)
  Act.ensure (do
    scribble s "vendor model: cycle "
    scribble s (toString cycle)
    scribble s " "
    scribble s "ok\n") r.giveUp

/-- Simulates a cycle. -/
def simulateCycle (c : Ref Clock) (s : Ref Writer) (cycle : Nat) : Act Facility Unit := do
  say .debug "top.cpu" (fetchMessage cycle)
  onClock c Clock.tick
  say .trace "top.bus" (.ok ("request issued in cycle " ++ toString cycle))
  say .traceAll "top.bus" (.ok ("arbiter state idle=" ++ Text.flagText (cycle % 2 = 0)))
  if cycle = 2 then say .warn "top.bus" (.ok "slave response delayed")
  vendorLine s cycle
  onClock c (Clock.advance cyclePeriod)

/-- Simulates a number of cycles from a given one on. -/
def simulateFrom (c : Ref Clock) (s : Ref Writer) (cycle : Nat) : Nat → Act Facility Unit
  | 0 => pure ()
  | n + 1 => do
    simulateCycle c s cycle
    simulateFrom c s (cycle + 1) n

/-- Simulates a number of cycles from the start. -/
def simulate (c : Ref Clock) (s : Ref Writer) (cycles : UInt32) : Act Facility Unit := do
  say .info "top" (.ok ("elaboration done, running " ++ toString cycles.toNat ++ " cycles"))
  simulateFrom c s 0 cycles.toNat
  if cycles = 0 then say .error "top" (.ok "nothing was simulated")

end Logbook.Demo
