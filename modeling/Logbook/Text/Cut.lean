/-
# Cutting at a byte

A place in a text may be given by the number of bytes before it. Cutting there gives the characters
on both sides, unless the place lies inside a character.

Key definitions: `byteSize`, `BrokenCut`, `cutAt`.
-/
import Logbook.Text.Quoted

namespace Logbook.Text

/-- The number of bytes of some characters. -/
def byteSize : List Char → Nat
  | [] => 0
  | c :: cs => c.utf8Size + byteSize cs

/-- A place inside a character. -/
structure BrokenCut where
  place : Nat
  /-- The character. -/
  char : Char
  /-- The number of bytes before the character. -/
  start : Nat
  deriving DecidableEq

/-- The most bytes of a text that are shown with a broken cut. -/
def BrokenCut.shownBytes : Nat := 256

/-- The characters that fit into a number of bytes. -/
def fitting (room : Nat) : List Char → List Char
  | [] => []
  | c :: cs => if c.utf8Size ≤ room then c :: fitting (room - c.utf8Size) cs else []

/-- Where a broken cut lies in a text. -/
def BrokenCut.message (cs : List Char) (b : BrokenCut) : String :=
  let shown := fitting shownBytes cs
  "byte index " ++ toString b.place ++ " is not a char boundary; it is inside '" ++
    String.ofList (quotedChar b.char) ++ "' (bytes " ++ toString b.start ++ ".." ++
    toString (b.start + b.char.utf8Size) ++ ") of `" ++ String.ofList shown ++ "`" ++
    if shown.length < cs.length then "[...]" else ""

/-- Cuts characters that `passed` bytes come before. -/
def cutFrom (passed place : Nat) : List Char → Except BrokenCut (List Char × List Char)
  | [] => .ok ([], [])
  | c :: cs =>
    if place ≤ passed then .ok ([], c :: cs)
    else if place < passed + c.utf8Size then .error ⟨place, c, passed⟩
    else (cutFrom (passed + c.utf8Size) place cs).map fun r => (c :: r.1, r.2)

/-- Cuts characters at a place that is counted in bytes; a place beyond the end is the end. -/
def cutAt (place : Nat) (cs : List Char) : Except BrokenCut (List Char × List Char) :=
  cutFrom 0 place cs

end Logbook.Text
