/-
# Folding patterns

A pattern holds rows and choices in pairs. What is worked out for a whole row or for a whole
choice cannot be put together from the pairs, so a fold takes them as wholes: it gathers the parts
of a row, with each word, characters side by side, as one part, and the alternatives of a choice.

Key definitions: `Shape`, `Fold`, `Fold.of`.
-/
import Logbook.Pattern.Assembly
import Logbook.Text.Utf8

namespace Logbook.Pattern

open Text (Ranges)

/-- What is known of a pattern while it is folded. -/
inductive Shape (α : Type) where
  /-- The parts of a row: words, as bytes, and the values of other parts. -/
  | row (parts : List (List UInt8 ⊕ α))
  /-- The values of the alternatives of a choice. -/
  | choice (alternatives : List α)

/-- How the value of a pattern is made from those of its parts. -/
structure Fold (α : Type) where
  word : List UInt8 → α
  /-- One character of a set that has not just one. -/
  set : Ranges → α
  place : Place → α
  /-- A row that is not just one part. -/
  row : List α → α
  choice : List α → α
  times : (p : α) → (least : Nat) → (most : Option Nat) → (short : Bool) → α
  group : α → α

namespace Fold

variable {α : Type} (f : Fold α)

/-- A part in front of others; a word runs on into one that follows. -/
def push (part : List UInt8 ⊕ α) (parts : List (List UInt8 ⊕ α)) : List (List UInt8 ⊕ α) :=
  match part, parts with
  | .inl v, .inl w :: parts => .inl (v ++ w) :: parts
  | part, parts => part :: parts

/-- The value of a part of a row. -/
def part : List UInt8 ⊕ α → α
  | .inl w => f.word w
  | .inr a => a

/-- The value of a pattern with a shape. -/
def value : Shape α → α
  | .row [p] => f.part p
  | .row ps => f.row (ps.map f.part)
  | .choice as => f.choice as

/-- The parts that a pattern is in a row around it. -/
def parts : Shape α → List (List UInt8 ⊕ α)
  | .row ps => ps
  | .choice as => [.inr (f.choice as)]

/-- The alternatives that a pattern is in a choice around it. -/
def alternatives : Shape α → List α
  | .choice as => as
  | s => [f.value s]

/-- The shape of a pattern. -/
def shape : Pattern → Shape α
  | .empty => .row []
  | .one k =>
    match only? k with
    | some n => .row [.inl (Text.encodeChar (Char.ofNat n))]
    | none => .row [.inr (f.set k)]
  | .place p => .row [.inr (f.place p)]
  | .both a b => .row ((f.parts (shape a)).foldr push (f.parts (shape b)))
  | .either a b => .choice (f.alternatives (shape a) ++ f.alternatives (shape b))
  | .times p least most short => .row [.inr (f.times (f.value (shape p)) least most short)]
  | .group _ p => .row [.inr (f.group (f.value (shape p)))]

/-- The value of a pattern. -/
def of (p : Pattern) : α := f.value (f.shape p)

end Fold

end Logbook.Pattern
