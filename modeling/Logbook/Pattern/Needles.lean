/-
# Needles

A pattern may say no more than that one of a few strings occurs. Such strings are needles: a
search for them needs no machine. They are found by making the beginnings of a pattern as few and
as telling as they can be. Beginnings that are exact lose nothing by it, unless giving up some
bytes makes a search for candidates so much better that a machine has to look at each of these.

A choice between very many words is searched for without a machine as well.

Key definitions: `Beginnings.chosen`, `Pattern.isNeedles`.
-/
import Logbook.Pattern.Beginnings
import Logbook.Pattern.Frequency

namespace Logbook.Pattern

namespace Beginnings

/-- The strings that no earlier one among them is the start of. -/
def withoutLonger (bs : List Beginning) : List Beginning :=
  (bs.foldl (fun kept b => if kept.any fun a => a.bytes.isPrefixOf b.bytes then kept else b :: kept)
    []).reverse

/-- What all strings start with. -/
def sharedStart : List Beginning → List UInt8
  | [] => []
  | b :: bs => bs.foldl (fun start b => commonStart start b.bytes) b.bytes

/-- The rank from which on a byte is too common to be looked for alone. -/
def tooCommon : Nat := 250

/-- The rank below which a byte is rare enough to be looked for alone. -/
def rare : Nat := 200

/-- Whether too many places of a text would be candidates for a string. -/
def isTooCommon (b : Beginning) : Bool :=
  match b.bytes with
  | [] => true
  | [c] => tooCommon ≤ Frequency.rank c
  | _ => false

/-- Strings cut to `n` bytes, with equal ones side by side as one. -/
def cutTogether (n : Nat) (bs : List Beginning) : List Beginning := joinRuns (bs.map (.cut n))

/-- The bytes to keep while there are more strings than a number, one after the other. -/
def cuts : List (Nat × Nat) := [(5, 10), (4, 10), (3, 64), (2, 64), (1, 10)]

/-- Strings that are cut until there are few of them. -/
def fewer : List (Nat × Nat) → List Beginning → List Beginning
  | [], bs => bs
  | (keep, limit) :: rest, bs =>
    if bs.length ≤ limit then bs else fewer rest (withoutLonger (bs.map (.cut keep)))

/-- The most strings that are searched for at once in the fastest way. -/
def fewest : Nat := 16

/-- The most strings that are still searched for at once in a fast way. -/
def few : Nat := 64

/-- Strings, or fewer in their place, unless these would be too common. Strings that are all exact
stay as they are if the others in their place are too short or too many. -/
def shortened (bs : List Beginning) : Beginnings :=
  let short := fewer cuts bs
  let isBad := short.any isTooCommon
  if bs.all fun b => b.exact then
    let isWorse := isBad || (short.any fun b => b.bytes.length ≤ 2) || few < short.length
    some (if short.isEmpty || isWorse then bs else short)
  else if isBad then none
  else some short

/-- The strings to search for in place of all beginnings. -/
def chosen (s : Beginnings) : Beginnings :=
  match s with
  | none => none
  | some all =>
    if hasEmpty all then none
    else
      let bs := withoutLonger all
      let start := sharedStart bs
      let isRare := start.length ≤ 3 && start.head?.any fun b => Frequency.rank b < rare
      if 1 < all.length && isRare then some (cutTogether 1 bs)
      else
        let isFast := (bs.all fun b => b.exact) && bs.length ≤ fewest
        let isBetter := 4 < start.length || (1 < start.length && !isFast)
        shortened (if isBetter then cutTogether start.length bs else bs)

end Beginnings

/-- Whether nothing but the characters of a stretch decides that it fits, and no part of it is
marked as a group. -/
def isBare : Pattern → Bool
  | .empty | .one _ => true
  | .place _ | .group _ _ => false
  | .both a b | .either a b => a.isBare && b.isBare
  | .times p _ _ _ => p.isBare

/-- Whether a pattern is a word. -/
def isWord : Pattern → Bool
  | .one k => (only? k).isSome
  | .both a b => a.isWord && b.isWord
  | _ => false

/-- The number of alternatives from which on words are searched for without a machine. -/
def manyWords : Nat := 3000

/-- Whether a pattern is a choice between very many words. -/
def isManyWords (p : Pattern) : Bool :=
  let ps := p.alternatives
  manyWords ≤ ps.length && ps.all isWord

/-- Whether a pattern is found by searching for strings. -/
def isNeedles (p : Pattern) : Bool :=
  let chosen := p.beginnings.chosen
  let isExact := chosen.isExact && chosen.any fun bs => !bs.isEmpty
  p.isBare && (isExact || p.isManyWords)

end Logbook.Pattern
