/-
# Plans of machines

A plan says which states a machine that runs a pattern is made of, in the order in which they are
made. States are numbered as they are made; each takes some bytes itself and some more for every
way that leads on. A plan is only counted through, up to a limit on these bytes.

The states of a class share what its spellings have in common. While they are made, those that may
be met again are kept in a table with a slot for each of a fixed number of hashes. A state that
comes to a slot that is taken puts the older one out of it, which is then made again if it is
needed. So how many states a class takes can depend on the numbers of those before it.

Key definitions: `MachineSize`, `Plan`, `Plan.count?`.
-/
import Logbook.Pattern.Spelling
import Std.Data.HashMap

namespace Logbook.Pattern

/-- How large a machine is that is being made. -/
structure MachineSize where
  /-- The number of states, which is the number of the next state too. -/
  states : Nat
  /-- The bytes of the ways that lead on from states. -/
  ways : Nat
  deriving DecidableEq

namespace MachineSize

/-- The size of nothing. -/
def zero : MachineSize := ⟨0, 0⟩

/-- The bytes of a state. -/
def stateBytes : Nat := 32

/-- The bytes of a way on that a state holds for a range of bytes. -/
def stepBytes : Nat := 8

/-- The bytes of a way on that is taken without reading anything. -/
def jumpBytes : Nat := 4

/-- The bytes of a machine. -/
def bytes (m : MachineSize) : Nat := stateBytes * m.states + m.ways

/-- A machine with more states and ways. -/
def plus (m : MachineSize) (states ways : Nat) : MachineSize := ⟨m.states + states, m.ways + ways⟩

end MachineSize

/-- States that may be met again, by their slots. A state is told by what it is made of. -/
abbrev StateTable : Type := Std.HashMap UInt64 (List UInt64 × Nat)

namespace StateTable

/-- A hash of numbers. -/
def hash (ns : List UInt64) : UInt64 :=
  ns.foldl (fun h n => (h ^^^ n) * 1099511628211) 14695981039346656037

/-- The number of the state that is made of something: one that the table holds, or the next. Also
gives the table and the size of the machine after it, where the state adds ways of some bytes. -/
def intern (slots : UInt64) (made : List UInt64) (ways : Nat) (t : StateTable) (m : MachineSize) :
    Nat × StateTable × MachineSize :=
  let slot := hash made % slots
  match t[slot]? with
  | some (other, n) =>
    if other = made then (n, t, m) else (m.states, t.insert slot (made, m.states), m.plus 1 ways)
  | none => (m.states, t.insert slot (made, m.states), m.plus 1 ways)

end StateTable

namespace Spelling

/-- The slots of the table for states that have ways on for byte ranges. -/
def forwardSlots : UInt64 := 10000

/-- The slots of the table for states that read one byte of a string backwards. -/
def backwardSlots : UInt64 := 1000

/-- Counts the states that a spelling takes, the later ones of a string first: what the ways of its
first state are made of, and the table and the size after it. The strings end in a state with the
number `finish`. -/
def forward (finish : Nat) (t : StateTable) (m : MachineSize) :
    Spelling → List UInt64 × StateTable × MachineSize
  | .done => ([], t, m)
  | .way r after others =>
    let inner := forward finish t m after
    let next :=
      if inner.1.isEmpty then (finish, inner.2)
      else inner.2.1.intern forwardSlots inner.1 (MachineSize.stepBytes * (inner.1.length / 3))
        inner.2.2
    let rest := forward finish next.2.1 next.2.2 others
    (r.1.toUInt64 :: r.2.toUInt64 :: next.1.toUInt64 :: rest.1, rest.2)

/-- The size of a machine with the states of a class that is read forwards. -/
def countForward (s : Spelling) (m : MachineSize) : MachineSize :=
  let ways := s.forward m.states {} (m.plus 1 0)
  (ways.2.1.intern forwardSlots ways.1 (MachineSize.stepBytes * (ways.1.length / 3)) ways.2.2).2.2

/-- Counts the states that a string takes which is read backwards: `next` is the number of the state
that comes after what has been counted. -/
def backward (next : Nat) (t : StateTable) (m : MachineSize) :
    List ByteRange → StateTable × MachineSize
  | [] => (t, m)
  | r :: rs =>
    let state := t.intern backwardSlots [next.toUInt64, r.1.toUInt64, r.2.toUInt64] 0 m
    backward state.1 state.2.1 state.2.2 rs

/-- The size of a machine with the states of a class that is read backwards. -/
def countBackward (strings : List (List ByteRange)) (m : MachineSize) : MachineSize :=
  let finish := m.states + 1
  (strings.foldl (fun (t, m) rs => backward finish t (m.plus 0 MachineSize.jumpBytes) rs)
    (({} : StateTable), m.plus 2 0)).2

end Spelling

/-- What a machine is made of. -/
inductive Plan where
  /-- States of any kind, and the bytes of the ways that lead on from them. -/
  | states (count ways : Nat)
  /-- The states of a class that is read forwards. -/
  | forward (s : Spelling)
  /-- The states of a class that is read backwards. -/
  | backward (strings : List (List ByteRange))
  | andThen (a b : Plan)
  /-- The same several times. -/
  | copies (n : Nat) (a : Plan)

namespace Plan

/-- Does the same several times, as long as it is possible. -/
def iterate? (f : MachineSize → Option MachineSize) : Nat → MachineSize → Option MachineSize
  | 0, m => some m
  | n + 1, m =>
    match f m with
    | some m => iterate? f n m
    | none => none

/-- The size of a machine with what is planned added to it, unless it takes more bytes than the
limit. -/
def count? (limit : Nat) : Plan → MachineSize → Option MachineSize
  | .states n ways, m => within (m.plus n ways)
  | .forward s, m => within (s.countForward m)
  | .backward strings, m => within (Spelling.countBackward strings m)
  | .andThen a b, m =>
    match a.count? limit m with
    | some m => b.count? limit m
    | none => none
  | .copies n a, m => iterate? (a.count? limit) n m
where
  /-- A size that is within the limit. -/
  within (m : MachineSize) : Option MachineSize := if m.bytes ≤ limit then some m else none

/-- Several plans, one after the other. -/
def all (ps : List Plan) : Plan := ps.foldr .andThen (.states 0 0)

end Plan

end Logbook.Pattern
