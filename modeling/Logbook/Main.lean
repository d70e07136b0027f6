/-
# The command line

Runs the demo with the arguments of the process and the directives of its surroundings, prints what
it leaves on the output and the console, and writes the log file. The time of day is read when the
demo starts, and stands on all of its lines.
-/
import Logbook.Demo.Program
import Std.Time.DateTime.Timestamp

namespace Logbook

/-- What a request for help is answered with. -/
def usage : String :=
  String.intercalate "\n"
    ["Exercise the simlog report facility on a toy simulation",
     "",
     "Usage: simlog-demo [OPTIONS]",
     "",
     "Options:",
     "      --level <LEVEL>              Global log level (NONE, FATAL, ERROR, WARNING, INFO, DEBUG, TRACE, TRACEALL) [default: WARNING]",
     "      --category <CATEGORY=LEVEL>  Override a category's level, as CATEGORY=LEVEL. Repeatable",
     "      --category-width <N>         Width of the category column; 0 hides it [default: 24]",
     "      --sys-time                   Prefix lines with the wall-clock time",
     "      --delta                      Print delta-cycle counts after the simulated time",
     "      --cycle-ns <NS>              Print cycles of this many nanoseconds instead of simulated time",
     "      --no-color                   Disable ANSI colour",
     "      --log-file <PATH>            Also write the log to this file",
     "      --sync                       Write the log file synchronously",
     "      --filter <REGEX>             Keep only categories matching this regular expression",
     "      --cycles <N>                 Number of simulated clock cycles to run [default: 4]",
     "  -h, --help                       Print help",
     "  -V, --version                    Print version",
     ""]

/-- The time of day, in hours, minutes, seconds and thousandths, so many thousandths after a midnight. -/
def timeOfDay (thousandths : Nat) : String :=
  let seconds := thousandths / 1000
  let minutes := seconds / 60
  digits 2 (minutes / 60 % 24) ++ ":" ++ digits 2 (minutes % 60) ++ ":" ++ digits 2 (seconds % 60) ++
    "." ++ digits 3 (thousandths % 1000)
where
  /-- A number with as many digits at least. -/
  digits (width n : Nat) : String := String.ofList (Text.padStart width '0' (Nat.toDigits 10 n))

/-- Reads the time of day, in UTC. -/
def readTime : IO String := do
  let now ← Std.Time.Timestamp.now
  return timeOfDay (now.toMillisecondsSinceUnixEpoch.val % 86400000).toNat

/-- Prints bytes. -/
def printBytes (stream : IO.FS.Stream) (bs : Array UInt8) : IO Unit := do
  stream.write ⟨bs⟩
  stream.flush

/-- Prints text. -/
def printText (stream : IO.FS.Stream) (s : String) : IO Unit := do
  stream.putStr s
  stream.flush

end Logbook

open Logbook in
/-- Runs the demo. -/
def main (args : List String) : IO UInt32 := do
  let surroundings ← IO.getEnv "RUST_LOG"
  let report := Demo.run args (Facility.start .nobody ⟨[]⟩ (← readTime) surroundings)
  printBytes (← IO.getStderr) report.console
  for file in report.disk.files do
    IO.FS.writeBinFile file.1 ⟨file.2⟩
  let stdout ← IO.getStdout
  match report.ending with
  | .help => printText stdout usage
  | .misuse => printText (← IO.getStderr) "error: invalid arguments\n"
  | .raised message => printText (← IO.getStderr) (message ++ "\n")
  | _ => printText stdout report.output
  match report.ending.code with
  | some code => return UInt32.ofNat code
  | none => return 134
