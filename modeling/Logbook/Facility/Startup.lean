/-
# Setting a facility up

Setting up compiles the category filter, creates the log file, reads the directives and installs
the backend; the first of these that fails is what is reported. A process has one backend for
good. Only when it is installed, the level, the worker and the process-wide sink are those of the
settings.

Key definitions: `StartupError`, `Facility.install`.
-/
import Logbook.Facility.Report
import Logbook.Pattern.Reader
import Logbook.Pattern.Run

namespace Logbook

/-- Why a facility cannot be set up. -/
inductive StartupError where
  | invalidFilter
  | invalidDirectives
  | logFile (path : String) (fault : FileFault)
  | alreadyInstalled
  deriving DecidableEq

/-- The wording of a failure, as far as it does not quote a pattern or directives. -/
def StartupError.message : StartupError → String
  | .invalidFilter => "invalid category filter"
  | .invalidDirectives => "invalid filter directives"
  | .logFile path fault => "failed to create log file " ++ path ++ ": " ++ fault.message
  | .alreadyInstalled => "a global tracing subscriber is already installed"

namespace Facility

/-- The directives for a level: those of the surroundings, unless these are blank. -/
def directivesFor (x : Facility) (l : Level) : String :=
  match x.surroundings with
  | some s => if (Text.trim s.toList).isEmpty then l.directives else s
  | none => l.directives

/-- The condition on categories that settings ask for. -/
def compileFilter (s : Settings) : Except StartupError (Option (String → Bool)) :=
  match s.categoryFilter with
  | none => .ok none
  | some text =>
    match Pattern.parse? text with
    | some p => .ok (some p.isIn)
    | none => .error .invalidFilter

/-- Creates the log file that settings ask for. -/
def createLogFile (s : Settings) (d : Disk) : Except StartupError (Option LogFile × Disk) :=
  match s.logFile with
  | none => .ok (none, d)
  | some path =>
    match d.create path with
    | .ok (h, d) => .ok (some ⟨h, s.background⟩, d)
    | .error fault => .error (.logFile path fault)

/-- What the set-up has to say about itself. -/
def startupRemarks (s : Settings) : Act Facility Unit := do
  carry (.remark Event.startupTarget "logging initialised"
    [("level", .shown s.level.name),
     ("log_file", .shown (Text.someText (s.logFile.map Text.quoted))),
     ("async_file", .flag s.background)])
  if s.noBroker then
    carry (.remark Event.startupTarget "broker creation disabled; no broker is managed here" [])

/-- A facility with a backend and the sink that feeds it. -/
def withBackend (s : Settings) (b : Backend) (filter : Option (String → Bool)) (x : Facility) :
    Facility :=
  let sink : EventSink :=
    ⟨none, filter, some .dismissWorker, 0, .stop⟩
  let added := x.sinks.insert (.events sink)
  { x with
    subscriber := .backend b
    worker := b.logFile.any fun l => l.background
    registry := x.registry.setLevel s.level
    sinks := added.2
    globalSink := some added.1 }

/-- Sets the facility up, with or without a clock. -/
def install (s : Settings) (clock : Option (Ref Clock)) :
    Act Facility (Except StartupError Unit) := fun x =>
  match compileFilter s with
  | .error e => (.done (.error e), x)
  | .ok filter =>
    match createLogFile s x.disk with
    | .error e => (.done (.error e), x)
    | .ok (log, disk) =>
      let x := { x with disk }
      match Directive.list (x.directivesFor s.level) with
      | .error .malformed => (.done (.error .invalidDirectives), x)
      | .error (.broken atStart cs cut) =>
        (.raised ((if atStart then "start " else "end ") ++ cut.message cs), x)
      | .ok directives =>
        match x.subscriber with
        | .nobody =>
          let time := match clock with
            | some c => .clock c
            | none => .none
          let b : Backend := ⟨directives, ⟨.ofSettings s, time, none⟩, s.colored, log⟩
          let r := startupRemarks s (x.withBackend s b filter)
          (r.1.map .ok, r.2)
        | _ => (.done (.error .alreadyInstalled), x)

end Facility

end Logbook
