/-
# JSON values

A document is a tree; a member of an object keeps its place and may repeat an earlier one, as it
is for the reader of a particular document to say what repetition means. A document is put
together from its words by a machine with a stack of the lists and objects that are still open,
one step per word.

Key definitions: `Value`, `Value.tokens`, `Value.render`, `Value.ofTokens?`, `Value.parse?`.
-/
import Logbook.Json.Token

namespace Logbook.Json

/-- A document. -/
inductive Value where
  | null
  | flag (b : Bool)
  | numeral (n : Numeral)
  | words (t : Words)
  | list (items : List Value)
  | object (members : List (Words × Value))

namespace Value

/-- A text. -/
def text (s : String) : Value := .words (.whole s)

/-- A number. -/
def natural (n : Nat) : Value := .numeral (.natural n)

/-- An object with given members. -/
def record (members : List (String × Value)) : Value :=
  .object (members.map fun m => (.whole m.1, m.2))

mutual

/-- The words of a document. -/
def tokens : Value → List Token
  | .null => [.null]
  | .flag b => [.flag b]
  | .numeral n => [.numeral n]
  | .words t => [.words t]
  | .list [] => [.openList, .closeList]
  | .list (v :: vs) => .openList :: tokens v ++ itemTokens vs ++ [.closeList]
  | .object [] => [.openObject, .closeObject]
  | .object (m :: ms) =>
    .openObject :: .words m.1 :: .colon :: tokens m.2 ++ memberTokens ms ++ [.closeObject]

/-- The words of the items after the first. -/
def itemTokens : List Value → List Token
  | [] => []
  | v :: vs => .comma :: tokens v ++ itemTokens vs

/-- The words of the members after the first. -/
def memberTokens : List (Words × Value) → List Token
  | [] => []
  | m :: ms => .comma :: .words m.1 :: .colon :: tokens m.2 ++ memberTokens ms

end

/-- A document as it is written. -/
def render (v : Value) : String := String.ofList (v.tokens.flatMap Token.spell)

/-- A list or an object whose end has not come: its parts so far, in reverse, and for an object
the name of the member that is being read. -/
inductive Open where
  | list (items : List Value)
  | object (members : List (Words × Value)) (name : Words)

/-- What may come next. -/
inductive Spot where
  | value
  /-- The first item of a list, or its end. -/
  | firstItem
  /-- The first name of an object, or its end. -/
  | firstName
  /-- The name of a further member, after those given in reverse. -/
  | nextName (members : List (Words × Value))
  /-- The colon after a name. -/
  | colon (members : List (Words × Value)) (name : Words)
  /-- What follows a value that is complete. -/
  | after (v : Value)

/-- The document of a word that stands alone. -/
def scalar? : Token → Option Value
  | .null => some .null
  | .flag b => some (.flag b)
  | .numeral n => some (.numeral n)
  | .words t => some (.words t)
  | _ => none

/-- Reads the first word of a value. -/
def begin? (stack : List Open) : Token → Option (List Open × Spot)
  | .openList => some (.list [] :: stack, .firstItem)
  | .openObject => some (stack, .firstName)
  | t => (scalar? t).map fun v => (stack, .after v)

/-- Reads one word. -/
def step? (stack : List Open) (spot : Spot) (t : Token) : Option (List Open × Spot) :=
  match spot, t, stack with
  | .firstItem, .closeList, .list _ :: stack => some (stack, .after (.list []))
  | .firstName, .closeObject, _ => some (stack, .after (.object []))
  | .value, _, _ | .firstItem, _, _ => begin? stack t
  | .firstName, .words name, _ => some (stack, .colon [] name)
  | .nextName ms, .words name, _ => some (stack, .colon ms name)
  | .colon ms name, .colon, _ => some (.object ms name :: stack, .value)
  | .after v, .comma, .list items :: stack => some (.list (v :: items) :: stack, .value)
  | .after v, .closeList, .list items :: stack =>
    some (stack, .after (.list (v :: items).reverse))
  | .after v, .comma, .object ms name :: stack => some (stack, .nextName ((name, v) :: ms))
  | .after v, .closeObject, .object ms name :: stack =>
    some (stack, .after (.object ((name, v) :: ms).reverse))
  | _, _, _ => none

/-- Puts the rest of the words together. -/
def build? (stack : List Open) (spot : Spot) : List Token → Option Value
  | [] =>
    match stack, spot with
    | [], .after v => some v
    | _, _ => none
  | t :: ts =>
    match step? stack spot t with
    | some (stack, spot) => build? stack spot ts
    | none => none

/-- The document with these words. -/
def ofTokens? (ts : List Token) : Option Value := build? [] .value ts

/-- Reads a document. -/
def parse? (s : String) : Option Value := (tokens? s).bind ofTokens?

end Value

end Logbook.Json
