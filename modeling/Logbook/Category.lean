/-
# Category names

Categories form a tree by their names: a dot ends the name of a parent. A name without dots has no
ancestor, and a name that starts with a dot has the empty name as its topmost one.

Key definitions: `Category.stems`, `Category.ancestors`, `Category.lineage`.
-/

namespace Logbook.Category

/-- The beginnings of a name that end just before one of its dots, longest first. -/
def stems : List Char → List (List Char)
  | [] => []
  | c :: cs =>
    let longer := (stems cs).map (c :: ·)
    if c = '.' then longer ++ [[]] else longer

/-- The names above a name, nearest first. -/
def ancestors (name : String) : List String := (stems name.toList).map String.ofList

/-- A name and the names above it, nearest first. -/
def lineage (name : String) : List String := name :: ancestors name

end Logbook.Category
