/-
# Asking for characters by property

A set of characters is asked for by the name of a category, a script or a property that characters
have or do not have, or by the name of another property and one of its values. Names are matched
loosely: letter case, blanks, hyphens, low lines and everything beyond ASCII do not count, and
neither does the word `is` in front. The one name that would become another name by this is left
alone.

Key definitions: `CodeSet.plainName`, `CodeSet.named?`, `CodeSet.valued?`.
-/
import Logbook.Text.Age
import Logbook.Text.Boundary

namespace Logbook.Text.CodeSet

/-- What counts in a name. -/
def plainName (cs : List Char) : String :=
  let isShort := (String.ofList (cs.take 2)).toLower == "is"
  let rest := if isShort then cs.drop 2 else cs
  let kept := rest.filter fun c => c.toNat < 0x80 && c ≠ ' ' && c ≠ '_' && c ≠ '-'
  let name := String.ofList (kept.map Char.toLower)
  if isShort && name == "c" then "isc" else name

/-- The set that has one of its names in a table. -/
def find? (name : String) (table : List (List String × CodeSet)) : Option CodeSet :=
  (table.find? fun e => e.1.contains name).map Prod.snd

/-- The characters of a category, of a script or with a property, by name. -/
def named? (name : List Char) : Option CodeSet :=
  let name := plainName name
  match find? name Property.named, find? name GeneralCategory.named with
  | some s, _ => some s
  | none, some s => some s
  | none, none => Script.named? name

/-- The characters for which a property has a value, by the names of both. -/
def valued? (property value : List Char) : Option CodeSet :=
  let property := plainName property
  let value := plainName value
  if ["gc", "generalcategory"].contains property then find? value GeneralCategory.named
  else if ["sc", "script"].contains property then Script.named? value
  else if ["scx", "scriptextensions"].contains property then Script.extended? value
  else if property = "age" then Age.named? value
  else if ["gcb", "graphemeclusterbreak"].contains property then find? value Boundary.ofCharacters
  else if ["wb", "wordbreak"].contains property then find? value Boundary.ofWords
  else if ["sb", "sentencebreak"].contains property then find? value Boundary.ofSentences
  else none

end Logbook.Text.CodeSet
