/-
# Conditions on fields

A directive may name a field that events must have. A value that it asks for as well is a number or
a pattern. Only the spans that events lie in are asked for values, so nothing but their form matters
here. Numbers are patterns too, unless they start with a plus sign; a pattern has to do with the
words of ASCII alone.

Key definitions: `FieldCondition`, `FieldCondition.parse?`.
-/
import Logbook.Pattern.Reader

namespace Logbook

/-- Whether a condition on a place looks for words of every script. -/
def Place.readsScripts : Place → Bool
  | .wordEdge ascii | .noWordEdge ascii | .wordStart ascii | .wordEnd ascii
  | .noWordBefore ascii | .noWordAfter ascii => !ascii
  | .start | .finish | .lineStart | .lineEnd | .returnStart | .returnEnd => false

/-- Whether a pattern looks for words of every script. -/
def Pattern.readsScripts : Pattern → Bool
  | .empty | .one _ => false
  | .place p => p.readsScripts
  | .both a b | .either a b => a.readsScripts || b.readsScripts
  | .times p _ _ _ | .group _ p => p.readsScripts

/-- A condition on the fields of an event. -/
structure FieldCondition where
  /-- The field that the event must have. -/
  name : String
  /-- Whether the field must have some value, too. -/
  hasValue : Bool
  deriving DecidableEq

namespace FieldCondition

/-- A text without the digits that it starts with, and their number. -/
def pastDigits (cs : List Char) : Nat × List Char :=
  let ds := cs.takeWhile Char.isDigit
  (ds.length, cs.drop ds.length)

/-- Whether nothing or an exponent is written. -/
def isExponent : List Char → Bool
  | [] => true
  | e :: cs =>
    let ds := if cs.head? = some '+' || cs.head? = some '-' then cs.drop 1 else cs
    (e = 'e' || e = 'E') && !ds.isEmpty && ds.all Char.isDigit

/-- Whether a number is written, without a sign. -/
def isNumber (cs : List Char) : Bool :=
  let word := String.ofList (cs.map Char.toLower)
  let whole := pastDigits cs
  let fraction := match whole.2 with
    | '.' :: cs => pastDigits cs
    | cs => (0, cs)
  ["inf", "infinity", "nan"].contains word ||
    (0 < whole.1 + fraction.1 && isExponent fraction.2)

/-- Whether a value can be asked for. -/
def isValue (cs : List Char) : Bool :=
  (match cs with
    | '+' :: cs => isNumber cs
    | _ => false) ||
  (Pattern.read? (String.ofList cs)).any fun p => !p.readsScripts

/-- Reads a condition: a name, or a name and a value with an equals sign between them. A second
equals sign ends the value. -/
def parse? (cs : List Char) : Option FieldCondition :=
  let name := cs.takeWhile (· ≠ '=')
  match cs.drop name.length with
  | [] => if name.isEmpty then none else some ⟨String.ofList name, false⟩
  | _ :: rest =>
    if isValue (rest.takeWhile (· ≠ '=')) then some ⟨String.ofList name, true⟩ else none

end FieldCondition

end Logbook
