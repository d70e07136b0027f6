/-
# Log statements

A statement in a model says how bad something is, how talkative the remark is, where it stands in
the model, and what there is to say. It first asks the process-wide registry whether it is
enabled, and puts its message together only if it is. An assertion is a fatal statement that is
made when its condition fails.

Key definitions: `Statement`, `Statement.runWith`, `Statement.run`, `assertion`.
-/
import Logbook.Facility.Report

namespace Logbook

/-- The kinds of log statements. -/
inductive Statement where
  | traceAll
  | trace
  | debug
  | info
  | warn
  | error
  | fatal
  deriving DecidableEq

namespace Statement

/-- The severity of the records a statement makes. -/
def severity : Statement → Severity
  | .traceAll | .trace | .debug | .info => .info
  | .warn => .warning
  | .error => .error
  | .fatal => .fatal

/-- The verbosity of the records a statement makes. -/
def verbosity : Statement → Verbosity
  | .traceAll => .debug
  | .trace => .full
  | .debug => .high
  | .info | .warn | .error | .fatal => .medium

/-- Whether a statement makes its record. -/
def isEnabled (k : Statement) (category : Option String) (x : Facility) : Bool :=
  x.registry.enabled k.severity category k.verbosity

/-- The draft of a statement. -/
def draft (k : Statement) (site : Site) (category : Option String) : Draft :=
  (Draft.start k.severity k.verbosity site none).setCategory category

/-- Runs a statement whose message may be impossible to put together, and says whether it made its
record. The draft is open by the time the message is put together, so it is closed in any case. -/
def runWith (k : Statement) (site : Site) (category : Option String)
    (message : Except String String) : Act Facility Bool := do
  if ← Act.inspect fun x => k.isEnabled category x then
    match message with
    | .ok m =>
      Facility.close ((k.draft site category).append m)
      pure true
    | .error e => Act.ensure (Act.raise e) (Facility.close (k.draft site category))
  else pure false

/-- Runs a statement, and says whether it made its record. -/
def run (k : Statement) (site : Site) (category : Option String) (message : String) :
    Act Facility Bool :=
  k.runWith site category (.ok message)

end Statement

/-- Checks a condition that is written as `condition`; a remark on it may be given. -/
def assertion (site : Site) (holds : Bool) (condition : String) (remark : Option String) :
    Act Facility Unit := do
  unless holds do
    let said := match remark with
      | some r => ": " ++ r
      | none => ""
    let _ ← Statement.fatal.run site none ("assertion failed: " ++ condition ++ said)

end Logbook
