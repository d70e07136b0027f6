/-
# Time stamps

A point in simulated time is a number of nanoseconds. A stamp shows it either as a number of whole
clock cycles or in the largest unit of which at least one whole has passed, with three decimals;
what the decimals cannot show is cut off.

Key definitions: `TimeUnit`, `Stamp`, `Stamp.simTime`, `Stamp.of`, `Stamp.text`.
-/
import Logbook.Text.Pad

namespace Logbook

/-- The units of simulated time. -/
inductive TimeUnit where
  | second
  | millisecond
  | microsecond
  | nanosecond
  deriving DecidableEq

namespace TimeUnit

/-- The length of a unit in nanoseconds. -/
def nanoseconds : TimeUnit → Nat
  | .second => 1000000000
  | .millisecond => 1000000
  | .microsecond => 1000
  | .nanosecond => 1

/-- The sign of a unit. -/
def sign : TimeUnit → String
  | .second => "s"
  | .millisecond => "ms"
  | .microsecond => "us"
  | .nanosecond => "ns"

/-- Every unit, the largest first. -/
def all : List TimeUnit := [.second, .millisecond, .microsecond, .nanosecond]

/-- The largest unit of which at least one whole has passed. -/
def fitting (t : Nat) : TimeUnit := (all.find? fun u => u.nanoseconds ≤ t).getD .nanosecond

end TimeUnit

/-- How stamps show the time. -/
inductive TimeDisplay where
  | simTime
  /-- Whole cycles of the given length. -/
  | cycles (period : Nat)
  deriving DecidableEq

/-- A point in time as it is shown. -/
inductive Stamp where
  /-- A number of wholes and thousandths of a unit. -/
  | time (whole thousandths : Nat) (unit : TimeUnit)
  /-- A number of whole cycles. -/
  | cycles (count : Nat)
  deriving DecidableEq

namespace Stamp

/-- The stamp of a time in its fitting unit; the start of time is shown in seconds. -/
def simTime (t : Nat) : Stamp :=
  if t = 0 then .time 0 0 .second
  else
    let unit := TimeUnit.fitting t
    let scale := unit.nanoseconds
    .time (t / scale) (t % scale * 1000 / scale) unit

/-- The stamp of a time; a cycle lasts at least one nanosecond. -/
def of (t : Nat) : TimeDisplay → Stamp
  | .simTime => simTime t
  | .cycles period => .cycles (t / Nat.max period 1)

/-- The text of a stamp. -/
def text : Stamp → String
  | .time whole thousandths unit =>
    toString whole ++ "." ++
      String.ofList (Text.padStart 3 '0' (toString thousandths).toList) ++ " " ++ unit.sign
  | .cycles count => toString count ++ " cycles"

end Stamp

end Logbook
