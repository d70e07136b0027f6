/-
# Spelling sets of characters

The bytes of the characters of a set are spelled by strings of byte ranges: each string stands for
all byte strings that take one byte from each of its ranges. A range of characters is cut until one
string spells it. As the strings of a set come in order, those that start alike stand side by side,
and a tree holds what they share once.

Key definitions: `spellings`, `spellingsOf`, `Spelling`, `Spelling.ofStrings`.
-/
import Logbook.Text.Ranges
import Logbook.Text.Utf8

namespace Logbook.Pattern

open Text (Ranges)

/-- A range of bytes. -/
abbrev ByteRange : Type := UInt8 × UInt8

/-- The code point at which a range is cut in two, if its code points are not spelled by one string
of byte ranges: where the number of bytes changes, and else where the last bytes start over. -/
def splitPoint? (first last : Nat) : Option Nat :=
  match [0x80, 0x800, 0x10000].find? fun n => first < n && n ≤ last with
  | some n => some n
  | none =>
    if last < 0x80 then none
    else
      [0x40, 0x1000, 0x40000].findSome? fun block =>
        if first / block = last / block then none
        else if first % block ≠ 0 then some ((first / block + 1) * block)
        else if last % block ≠ block - 1 then some (last / block * block)
        else none

/-- The strings of byte ranges that spell the code points of a range, in order. -/
def spellings (first last : Nat) : List (List ByteRange) :=
  match splitPoint? first last with
  | some m =>
    if _h : first < m ∧ m ≤ last then spellings first (m - 1) ++ spellings m last
    else []
  | none => [(Text.encodeChar (Char.ofNat first)).zip (Text.encodeChar (Char.ofNat last))]
  termination_by last - first
  decreasing_by all_goals omega

/-- The strings of byte ranges that spell the characters of a set, in order. -/
def spellingsOf (k : Ranges) : List (List ByteRange) := k.flatMap fun r => spellings r.1 r.2

/-- Strings of byte ranges, with what they start with in common held once. -/
inductive Spelling where
  /-- The end of a string, or of the strings that start alike. -/
  | done
  /-- A range, what comes after it, and the strings that start otherwise. -/
  | way (r : ByteRange) (after others : Spelling)

namespace Spelling

/-- A single string. -/
def ofString : List ByteRange → Spelling
  | [] => .done
  | r :: rs => .way r (ofString rs) .done

/-- A string in front of others. -/
def cons : List ByteRange → Spelling → Spelling
  | [], s => s
  | rs, .done => ofString rs
  | r :: rs, .way q after others =>
    if r = q then .way q (cons rs after) others else .way r (ofString rs) (.way q after others)

/-- Strings in order. -/
def ofStrings (strings : List (List ByteRange)) : Spelling := strings.foldr cons .done

end Spelling

end Logbook.Pattern
