/-
# Reading levels

A level is read from text in two ways. The strict reader wants one name and nothing else but
blanks around it, and says what it could not read. The lenient reader takes the first word of a
text and keeps what it had when that word names no level, so a default can be loaded first.

Key definitions: `Level.parse`, `Level.readWord?`, `Level.readInto`, `Level.ofCode`, `LevelError`.
-/
import Logbook.Level
import Logbook.Text.Blank

namespace Logbook

/-- What cannot be turned into a level. -/
inductive LevelError where
  /-- A text that names no level, without the blanks around it. -/
  | unknown (input : String)
  /-- A number that is no position of a level. -/
  | outOfRange (code : UInt8)
  deriving DecidableEq

/-- The wording of an error. -/
def LevelError.message : LevelError → String
  | .unknown input =>
    "unknown log level '" ++ input ++ "', expected one of " ++
      ", ".intercalate (Level.all.map Level.name)
  | .outOfRange code => "log level " ++ toString code.toNat ++ " is outside the range 0..=7"

namespace Level

/-- The level at a position. -/
def ofCode (n : UInt8) : Except LevelError Level :=
  match ofCode? n with
  | some l => .ok l
  | none => .error (.outOfRange n)

/-- Reads a text that is the name of a level, up to the blanks around it. -/
def parse (s : String) : Except LevelError Level :=
  let input := String.ofList (Text.trim s.toList)
  match ofName? input with
  | some l => .ok l
  | none => .error (.unknown input)

/-- The level that the first word of a text names. -/
def readWord? (s : String) : Option Level :=
  match Text.firstWord? s.toList with
  | some word => ofName? (String.ofList word)
  | none => none

/-- Reads the first word of a text into a place that holds a level: whether it named one, and
what the place holds afterwards. -/
def readInto (s : String) (held : Level) : Bool × Level :=
  match readWord? s with
  | some l => (true, l)
  | none => (false, held)

/-- A text with its ASCII letters in upper case. -/
def upperAscii (s : String) : String :=
  String.ofList (s.toList.map Char.toUpper)

/-- Reads the name of a level in any ASCII letter case. -/
def parseAnyCase (s : String) : Except LevelError Level := parse (upperAscii s)

end Level

end Logbook
