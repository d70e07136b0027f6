/-
# Descriptions of objects

An object is described by the name of its kind and its parts in braces, in their order; two dots at
the end say that there are parts that are not shown.

Key definitions: `braced`, `flagText`, `someText`.
-/

namespace Logbook.Text

/-- A kind and its parts in braces. -/
def braced (kind : String) (parts : List (String × String)) (more : Bool) : String :=
  let shown := parts.map (fun p => p.1 ++ ": " ++ p.2) ++ if more then [".."] else []
  if shown.isEmpty then kind else kind ++ " \x7b " ++ ", ".intercalate shown ++ " \x7d"

/-- The word for yes or no. -/
def flagText (b : Bool) : String := if b then "true" else "false"

/-- A part that may be absent. -/
def someText : Option String → String
  | some s => "Some(" ++ s ++ ")"
  | none => "None"

end Logbook.Text
