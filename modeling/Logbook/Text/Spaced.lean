/-
# Spaced text

Some text may be written with blanks and remarks between its characters, which mean nothing. A
remark starts with a number sign and goes on to the end of its line. Every function here takes a
text as it is if it may not be spaced.

Key definitions: `skip`, `gather`, `gatherSome`, `ahead?`.
-/
import Logbook.Text.Blank

namespace Logbook.Text.Spaced

/-- A text without the blanks and remarks that it starts with; `remark` says whether it starts
inside of one. -/
def skipFrom (remark : Bool) : List Char → List Char
  | [] => []
  | c :: cs =>
    if remark then skipFrom (c ≠ '\n') cs
    else if isBlank c then skipFrom false cs
    else if c = '#' then skipFrom true cs
    else c :: cs

/-- A text without the blanks and remarks that it starts with, if it may be spaced. -/
def skip (spaced : Bool) (cs : List Char) : List Char := if spaced then skipFrom false cs else cs

/-- The characters up to the first that ends them, without blanks and remarks, and the rest. -/
def gatherFrom (spaced remark : Bool) (ends : Char → Bool) : List Char → List Char × List Char
  | [] => ([], [])
  | c :: cs =>
    if remark then gatherFrom spaced (c ≠ '\n') ends cs
    else if spaced && isBlank c then gatherFrom spaced false ends cs
    else if spaced && c = '#' then gatherFrom spaced true ends cs
    else if ends c then ([], c :: cs)
    else
      let r := gatherFrom spaced false ends cs
      (c :: r.1, r.2)

/-- The characters up to the first that ends them, without blanks and remarks, and the rest. -/
def gather (spaced : Bool) (ends : Char → Bool) (cs : List Char) : List Char × List Char :=
  gatherFrom spaced false ends cs

/-- The first `n` characters without blanks and remarks, and the rest. -/
def gatherSome (spaced : Bool) : Nat → List Char → List Char × List Char
  | 0, cs => ([], cs)
  | n + 1, cs =>
    match skip spaced cs with
    | [] => ([], [])
    | c :: cs =>
      let r := gatherSome spaced n cs
      (c :: r.1, r.2)

/-- What comes next if blanks are looked through, and one number sign too; the very next character
if nothing else comes. -/
def ahead? (spaced : Bool) (cs : List Char) : Option Char :=
  if !spaced then cs.head?
  else
    match trimStart cs with
    | [] => cs.head?
    | '#' :: rest =>
      match trimStart rest with
      | [] => cs.head?
      | c :: _ => some c
    | c :: _ => some c

end Logbook.Text.Spaced
