/-
# The words of a JSON text

A JSON text is cut into brackets, separators, numbers, texts and the three literal words. The
cutter is a machine with one step per character; it refuses what the grammar refuses: leading
zeros, a point without digits around it, bare control characters, unknown escapes.

Only numbers without sign, fraction and exponent keep their value, as no document of this library
holds any other. A text may escape half of a surrogate pair; such a text is a torn one, which no
string can hold.

Key definitions: `Token`, `Token.spell`, `Lexer.State`, `Lexer.step`, `tokens?`.
-/
import Logbook.Text.Hexadecimal
import Logbook.Text.Quoted

namespace Logbook.Json

/-- A number of a document. -/
inductive Numeral where
  | natural (n : Nat)
  /-- Any number with a sign, a fraction or an exponent. -/
  | other
  deriving DecidableEq

/-- A text of a document. -/
inductive Words where
  | whole (s : String)
  /-- A text with half of a surrogate pair. -/
  | torn
  deriving DecidableEq

/-- A word of a JSON text. -/
inductive Token where
  | openList
  | closeList
  | openObject
  | closeObject
  | colon
  | comma
  | null
  | flag (b : Bool)
  | numeral (n : Numeral)
  | words (t : Words)
  deriving DecidableEq

/-- Four hexadecimal digits. -/
def fourHex (n : Nat) : List Char :=
  let ds := Text.hex n
  List.replicate (4 - ds.length) '0' ++ ds

/-- A character inside the quotes of a JSON text. -/
def escapedChar (c : Char) : List Char :=
  if c = '\x22' then ['\\', '\x22']
  else if c = '\\' then ['\\', '\\']
  else if c = '\n' then ['\\', 'n']
  else if c = '\r' then ['\\', 'r']
  else if c = '\t' then ['\\', 't']
  else if c = '\x08' then ['\\', 'b']
  else if c = '\x0c' then ['\\', 'f']
  else if c.toNat < 0x20 then ['\\', 'u'] ++ fourHex c.toNat
  else [c]

/-- A word as it is written. -/
def Token.spell : Token → List Char
  | .openList => ['[']
  | .closeList => [']']
  | .openObject => ['\x7b']
  | .closeObject => ['\x7d']
  | .colon => [':']
  | .comma => [',']
  | .null => "null".toList
  | .flag true => "true".toList
  | .flag false => "false".toList
  | .numeral (.natural n) => Nat.toDigits 10 n
  | .numeral .other => ['-', '0']
  | .words (.whole s) => '\x22' :: s.toList.flatMap escapedChar ++ ['\x22']
  | .words .torn => "\"\\ud800\"".toList

namespace Lexer

/-- What a number consists of so far. -/
inductive Phase where
  | sign
  | zero
  | whole
  | point
  | decimals
  | mark
  | markSign
  | exponent
  deriving DecidableEq

/-- What a text inside quotes waits for: the next character, the letter of an escape, or the
next of four hexadecimal digits. -/
inductive Escape where
  | no
  | letter
  | digits (left value : Nat)
  deriving DecidableEq

/-- A text inside quotes so far, in reverse; `half` is a first half of a surrogate pair that the
next escape may complete. -/
structure Open where
  chars : List Char
  torn : Bool
  half : Option Nat
  escape : Escape
  deriving DecidableEq

/-- Where the cutter stands. -/
inductive State where
  | idle
  /-- Inside a literal word; its letters in reverse. -/
  | letters (cs : List Char)
  /-- Inside a number; its whole part. -/
  | number (negative : Bool) (value : Nat) (phase : Phase)
  /-- Inside quotes. -/
  | quotes (t : Open)
  deriving DecidableEq

/-- The characters that may stand between words. -/
def isSpace (c : Char) : Bool := c = ' ' || c = '\t' || c = '\n' || c = '\r'

/-- The value of a decimal digit. -/
def digit? (c : Char) : Option Nat := if '0' ≤ c ∧ c ≤ '9' then some (c.toNat - 48) else none

/-- Reads a character between words. -/
def start (c : Char) : Option (List Token × State) :=
  if isSpace c then some ([], .idle)
  else if c = '[' then some ([.openList], .idle)
  else if c = ']' then some ([.closeList], .idle)
  else if c = '\x7b' then some ([.openObject], .idle)
  else if c = '\x7d' then some ([.closeObject], .idle)
  else if c = ':' then some ([.colon], .idle)
  else if c = ',' then some ([.comma], .idle)
  else if c = '\x22' then some ([], .quotes ⟨[], false, none, .no⟩)
  else if c = '-' then some ([], .number true 0 .sign)
  else if c = '0' then some ([], .number false 0 .zero)
  else if let some d := digit? c then some ([], .number false d .whole)
  else if 'a' ≤ c ∧ c ≤ 'z' then some ([], .letters [c])
  else none

/-- The literal word with these letters, given in reverse. -/
def literal? (cs : List Char) : Option Token :=
  let word := cs.reverse
  if word = "null".toList then some .null
  else if word = "true".toList then some (.flag true)
  else if word = "false".toList then some (.flag false)
  else none

/-- The number that ends here, if it may end here. -/
def number? (negative : Bool) (value : Nat) : Phase → Option Token
  | .zero | .whole => some (.numeral (if negative then .other else .natural value))
  | .decimals | .exponent => some (.numeral .other)
  | _ => none

/-- The phase and whole part of a number that a character continues. -/
def continue? (value : Nat) (phase : Phase) (c : Char) : Option (Nat × Phase) :=
  match phase, digit? c with
  | .sign, some 0 => some (0, .zero)
  | .sign, some d => some (d, .whole)
  | .whole, some d => some (value * 10 + d, .whole)
  | .point, some _ | .decimals, some _ => some (value, .decimals)
  | .mark, some _ | .markSign, some _ | .exponent, some _ => some (value, .exponent)
  | .zero, none | .whole, none =>
    if c = '.' then some (value, .point)
    else if c = 'e' || c = 'E' then some (value, .mark)
    else none
  | .decimals, none => if c = 'e' || c = 'E' then some (value, .mark) else none
  | .mark, none => if c = '+' || c = '-' then some (value, .markSign) else none
  | _, _ => none

/-- A text that goes on with a character. -/
def Open.push (t : Open) (c : Char) : Open :=
  { t with chars := c :: t.chars, torn := t.torn || t.half.isSome, half := none, escape := .no }

/-- A text that goes on with the code unit of an escape. -/
def Open.pushUnit (t : Open) (n : Nat) : Open :=
  if 0xdc00 ≤ n ∧ n ≤ 0xdfff then
    match t.half with
    | some h =>
      { t with
        chars := Char.ofNat (0x10000 + (h - 0xd800) * 0x400 + (n - 0xdc00)) :: t.chars
        half := none
        escape := .no }
    | none => { t with torn := true, escape := .no }
  else if 0xd800 ≤ n ∧ n ≤ 0xdbff then
    { t with torn := t.torn || t.half.isSome, half := some n, escape := .no }
  else t.push (Char.ofNat n)

/-- The text that ends here. -/
def Open.close (t : Open) : Words :=
  if t.torn || t.half.isSome then .torn else .whole (String.ofList t.chars.reverse)

/-- The character that a letter after a backslash stands for. -/
def escape? (c : Char) : Option Char :=
  if c = '\x22' || c = '\\' || c = '/' then some c
  else if c = 'b' then some '\x08'
  else if c = 'f' then some '\x0c'
  else if c = 'n' then some '\n'
  else if c = 'r' then some '\r'
  else if c = 't' then some '\t'
  else none

/-- Reads a character inside quotes. -/
def quote (t : Open) (c : Char) : Option (List Token × State) :=
  match t.escape with
  | .no =>
    if c = '\x22' then some ([.words t.close], .idle)
    else if c = '\\' then some ([], .quotes { t with escape := .letter })
    else if c.toNat < 0x20 then none
    else some ([], .quotes (t.push c))
  | .letter =>
    if c = 'u' then some ([], .quotes { t with escape := .digits 4 0 })
    else (escape? c).map fun x => ([], .quotes (t.push x))
  | .digits left value =>
    (Text.hexDigit? c).map fun d =>
      let value := value * 16 + d
      if left ≤ 1 then ([], .quotes (t.pushUnit value))
      else ([], .quotes { t with escape := .digits (left - 1) value })

/-- Reads one character: the words that it completes, and where the cutter stands after it. -/
def step : State → Char → Option (List Token × State)
  | .idle, c => start c
  | .letters cs, c =>
    if 'a' ≤ c ∧ c ≤ 'z' then some ([], .letters (c :: cs))
    else do
      let t ← literal? cs
      let r ← start c
      pure (t :: r.1, r.2)
  | .number negative value phase, c =>
    match continue? value phase c with
    | some (value, phase) => some ([], .number negative value phase)
    | none => do
      let t ← number? negative value phase
      if (digit? c).isSome then none
      else
        let r ← start c
        pure (t :: r.1, r.2)
  | .quotes t, c => quote t c

/-- What the end of the text completes. -/
def finish : State → Option (List Token)
  | .idle => some []
  | .letters cs => (literal? cs).map ([·])
  | .number negative value phase => (number? negative value phase).map ([·])
  | .quotes _ => none

/-- Cuts the rest of a text. -/
def run (s : State) : List Char → Option (List Token)
  | [] => finish s
  | c :: cs => do
    let r ← step s c
    let ts ← run r.2 cs
    pure (r.1 ++ ts)

end Lexer

/-- The words of a JSON text. -/
def tokens? (s : String) : Option (List Token) := Lexer.run .idle s.toList

end Logbook.Json
