/-
# Blank characters

The characters with the Unicode property White_Space, and the two ways a text is freed of them:
`trim` takes them off both ends, `words` cuts at every run of them. Both work on lists of
characters, where the cuts are plain recursions.

Key definitions: `isBlank`, `trim`, `words`, `firstWord?`.
-/
import Logbook.Text.Ranges

namespace Logbook.Text

/-- The code points with the property White_Space. -/
def blankRanges : Ranges :=
  [(0x09, 0x0d), (0x20, 0x20), (0x85, 0x85), (0xa0, 0xa0), (0x1680, 0x1680), (0x2000, 0x200a),
   (0x2028, 0x2029), (0x202f, 0x202f), (0x205f, 0x205f), (0x3000, 0x3000)]

/-- Whether a character is a blank. -/
def isBlank (c : Char) : Bool := blankRanges.holds c.toNat

/-- A text without its leading blanks. -/
def trimStart : List Char → List Char
  | [] => []
  | c :: cs => if isBlank c then trimStart cs else c :: cs

/-- A text without its trailing blanks. -/
def trimEnd : List Char → List Char
  | [] => []
  | c :: cs =>
    match trimEnd cs with
    | [] => if isBlank c then [] else [c]
    | rest => c :: rest

/-- A text without the blanks at both ends. -/
def trim (cs : List Char) : List Char := trimEnd (trimStart cs)

/-- The word that a text without leading blanks starts with. -/
def firstWord (cs : List Char) : List Char := cs.takeWhile fun c => !isBlank c

/-- The first of the pieces between blanks, if the text is not all blank. -/
def firstWord? (cs : List Char) : Option (List Char) :=
  match trimStart cs with
  | [] => none
  | c :: rest => some (firstWord (c :: rest))

/-- The pieces between blanks: `word` is the piece that is being read, in reverse. -/
def wordsFrom (word : List Char) : List Char → List (List Char)
  | [] => if word.isEmpty then [] else [word.reverse]
  | c :: cs =>
    if isBlank c then
      if word.isEmpty then wordsFrom [] cs else word.reverse :: wordsFrom [] cs
    else wordsFrom (c :: word) cs

/-- The pieces between blanks. -/
def words (cs : List Char) : List (List Char) := wordsFrom [] cs

end Logbook.Text
