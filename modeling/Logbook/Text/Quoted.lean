/-
# Quoted text

Descriptions of objects show a text between double quotes, such that every character can be seen:
quotes, backslashes and the common controls get a letter of their own, and whatever has no form of
its own on a page is given as its code point in hexadecimal.

Key definitions: `quotedChar`, `quoted`.
-/
import Logbook.Text.Visible

namespace Logbook.Text

/-- A number in hexadecimal, without leading zeros. -/
def hex (n : Nat) : List Char := Nat.toDigits 16 n

/-- A character by its code point. -/
def codePoint (c : Char) : List Char := ['\\', 'u', '\x7b'] ++ hex c.toNat ++ ['\x7d']

/-- A character inside double quotes. -/
def quotedChar (c : Char) : List Char :=
  if c = '\x00' then ['\\', '0']
  else if c = '\t' then ['\\', 't']
  else if c = '\r' then ['\\', 'r']
  else if c = '\n' then ['\\', 'n']
  else if c = '\\' then ['\\', '\\']
  else if c = '\x22' then ['\\', '\x22']
  else if c ≠ ' ' ∧ (isExtending c ∨ isHidden c) then codePoint c
  else [c]

/-- A text between double quotes. -/
def quoted (s : String) : String :=
  String.ofList ('\x22' :: s.toList.flatMap quotedChar ++ ['\x22'])

end Logbook.Text
