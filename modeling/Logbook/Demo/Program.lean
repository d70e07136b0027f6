/-
# The demo

The demo sets the facility up as its arguments ask, gives categories their levels, and runs the
workload. It tells on its output how many cycles were simulated; the log goes to the console and to
the log file. An exit code says whether the arguments made sense and whether the facility could be
set up.

Key definitions: `Exit`, `Exit.code`, `Report`, `run`.
-/
import Logbook.Demo.Options
import Logbook.Demo.Workload
import Logbook.Facility.Startup

namespace Logbook.Demo

/-- How the demo ended. -/
inductive Exit where
  | simulated
  | help
  | version
  | misuse
  | notSetUp (e : StartupError)
  /-- A message that nobody handled. -/
  | raised (message : String)
  | aborted

/-- The exit code of an ending; none if the process was stopped. -/
def Exit.code : Exit → Option Nat
  | .simulated | .help | .version => some 0
  | .notSetUp _ => some 1
  | .misuse => some 2
  | .raised _ => some 101
  | .aborted => none

/-- What the demo leaves behind. -/
structure Report where
  ending : Exit
  output : String
  console : Array UInt8
  disk : Disk

/-- The name and version of the demo. -/
def version : String := "simlog-demo 0.6.1\n"

/-- Gives categories their levels, and cycles their length. -/
def configure (o : Options) (x : Facility) : Facility :=
  let r := o.categories.foldl (fun r c => r.setCategoryLevel c.1 c.2) x.registry
  let r := match o.cycle with
    | some n => if n = 0 then r else r.setCycleBase n.toNat
    | none => r
  { x with registry := r }

/-- Sets the facility up and runs the workload. -/
def session (o : Options) : Act Facility (Except StartupError Unit) := do
  let x ← Act.read
  let clock := x.clocks.insert .start
  let stream := x.streams.insert .console
  Act.modify fun x => { x with clocks := clock.2, streams := stream.2 }
  match ← Facility.install o.settings (some clock.1) with
  | .error e => pure (.error e)
  | .ok () =>
    Act.ensure (do
      Act.modify (configure o)
      simulate clock.1 stream.1 o.cycles
      pure (.ok ())) (Act.modify Facility.dismissWorker)

/-- Runs the demo on a facility. -/
def runOptions (o : Options) (x : Facility) : Report :=
  let r := session o x
  match r.1 with
  | .done (.ok ()) =>
    ⟨.simulated, "simulated " ++ toString o.cycles.toNat ++ " cycles\n", r.2.console, r.2.disk⟩
  | .done (.error e) =>
    ⟨.notSetUp e, "", r.2.console ++ Text.bytes ("simlog-demo: " ++ e.message ++ "\n"), r.2.disk⟩
  | .raised m => ⟨.raised m, "", r.2.console, r.2.disk⟩
  | .aborted => ⟨.aborted, "", r.2.console, r.2.disk⟩

/-- Runs the demo with arguments. -/
def run (args : List String) (x : Facility) : Report :=
  match Request.ofArguments args with
  | .run o => runOptions o x
  | .help => ⟨.help, "", #[], x.disk⟩
  | .version => ⟨.version, version, #[], x.disk⟩
  | .misuse => ⟨.misuse, "", #[], x.disk⟩

end Logbook.Demo
