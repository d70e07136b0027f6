/-
# Text as bytes

Streams carry bytes, records carry text. `encode` writes each character in one to four bytes;
`decode` reads bytes back and never fails: every stretch that can belong to no character becomes
one replacement character. A stretch is the longest start of a character that the bytes spell, or
else a single byte, so a byte that breaks a character off is looked at again as a first byte.

The reader is a machine with one step per byte, so bytes can be fed in pieces.

Key definitions: `encode`, `Utf8.State`, `Utf8.step`, `decode`.
-/

namespace Logbook.Text

/-- The character that stands for bytes that spell none. -/
def replacement : Char := '\uFFFD'

/-- A byte that continues a character: its six low bits are those of `n`. -/
def continuation (n : Nat) : UInt8 := UInt8.ofNat (0x80 + n % 0x40)

/-- The bytes of a character. -/
def encodeChar (c : Char) : List UInt8 :=
  let n := c.toNat
  if n < 0x80 then [UInt8.ofNat n]
  else if n < 0x800 then [UInt8.ofNat (0xc0 + n / 0x40), continuation n]
  else if n < 0x10000 then
    [UInt8.ofNat (0xe0 + n / 0x1000), continuation (n / 0x40), continuation n]
  else
    [UInt8.ofNat (0xf0 + n / 0x40000), continuation (n / 0x1000), continuation (n / 0x40),
      continuation n]

/-- The bytes of a text. -/
def encode (cs : List Char) : List UInt8 := cs.flatMap encodeChar

namespace Utf8

/-- Where a reader stands: between two characters, or inside one, with the value of the bits read
so far, the number of bytes still owed and the range the next of them has to lie in. -/
inductive State where
  | between
  | inside (value owed low high : Nat)
  deriving DecidableEq

/-- Reads a byte as the first of a character. -/
def begin (b : UInt8) : List Char × State :=
  let n := b.toNat
  if n < 0x80 then ([Char.ofNat n], .between)
  else if 0xc2 ≤ n ∧ n ≤ 0xdf then ([], .inside (n - 0xc0) 1 0x80 0xbf)
  else if n = 0xe0 then ([], .inside 0 2 0xa0 0xbf)
  else if n = 0xed then ([], .inside 0xd 2 0x80 0x9f)
  else if 0xe1 ≤ n ∧ n ≤ 0xef then ([], .inside (n - 0xe0) 2 0x80 0xbf)
  else if n = 0xf0 then ([], .inside 0 3 0x90 0xbf)
  else if n = 0xf4 then ([], .inside 4 3 0x80 0x8f)
  else if 0xf1 ≤ n ∧ n ≤ 0xf3 then ([], .inside (n - 0xf0) 3 0x80 0xbf)
  else ([replacement], .between)

/-- Reads one byte: the characters it completes, and where the reader stands after it. -/
def step : State → UInt8 → List Char × State
  | .between, b => begin b
  | .inside value owed low high, b =>
    if low ≤ b.toNat ∧ b.toNat ≤ high then
      let value := value * 0x40 + b.toNat % 0x40
      if owed ≤ 1 then ([Char.ofNat value], .between)
      else ([], .inside value (owed - 1) 0x80 0xbf)
    else
      let r := begin b
      (replacement :: r.1, r.2)

/-- What the end of the bytes leaves of a character that is owed bytes. -/
def finish : State → List Char
  | .between => []
  | .inside .. => [replacement]

/-- Reads the bytes from a given standing on. -/
def decodeFrom (s : State) : List UInt8 → List Char
  | [] => finish s
  | b :: bs => (step s b).1 ++ decodeFrom (step s b).2 bs

end Utf8

/-- The text that bytes spell, with a replacement character where they spell none. -/
def decode (bs : List UInt8) : List Char := Utf8.decodeFrom .between bs

/-- The bytes of a string. -/
def bytes (s : String) : List UInt8 := encode s.toList

/-- The string that bytes spell. -/
def ofBytes (bs : List UInt8) : String := String.ofList (decode bs)

end Logbook.Text
