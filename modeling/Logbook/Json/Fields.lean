/-
# Documents with named fields

Settings and stored records are documents with a fixed list of fields. Such a document is an object
that names each field at most once, among any other members, or a list that gives the fields in
their order and may stop early; what an absent field means is for the reader of the document to
say.

Key definitions: `Value.fields?`, `Fields.optional`, `Fields.required`.
-/
import Logbook.Json.Value
import Logbook.Level

namespace Logbook.Json

/-- The fields of a document by their names. -/
abbrev Fields : Type := List (String × Value)

namespace Value

/-- The members that bear one of the names, if no name of a member is torn. -/
def members? (names : List String) : List (Words × Value) → Option Fields
  | [] => some []
  | (.torn, _) :: _ => none
  | (.whole name, v) :: ms =>
    (members? names ms).map fun rest => if names.contains name then (name, v) :: rest else rest

/-- Whether no name is repeated. -/
def distinct : Fields → Bool
  | [] => true
  | f :: fs => !(fs.any fun g => g.1 == f.1) && distinct fs

/-- The fields that a document gives. -/
def fields? (names : List String) : Value → Option Fields
  | .object ms =>
    match members? names ms with
    | some fs => if distinct fs then some fs else none
    | none => none
  | .list vs => if vs.length ≤ names.length then some (names.zip vs) else none
  | _ => none

/-- A word that stands for itself or names the only member of an object, with nothing in it. -/
def choice? : Value → Option String
  | .words (.whole s) => some s
  | .object [(.whole s, .null)] => some s
  | _ => none

/-- A text. -/
def text? : Value → Option String
  | .words (.whole s) => some s
  | _ => none

/-- A text or nothing. -/
def textOrNull? : Value → Option (Option String)
  | .null => some none
  | v => v.text?.map some

/-- Yes or no. -/
def flag? : Value → Option Bool
  | .flag b => some b
  | _ => none

/-- A number up to the largest word of 32 bits. -/
def word32? : Value → Option UInt32
  | .numeral (.natural n) => if n < UInt32.size then some (UInt32.ofNat n) else none
  | _ => none

/-- A number up to the largest word of 64 bits. -/
def word64? : Value → Option UInt64
  | .numeral (.natural n) => if n < UInt64.size then some (UInt64.ofNat n) else none
  | _ => none

/-- A level by its name. -/
def level? (v : Value) : Option Level := v.choice?.bind Level.ofName?

end Value

namespace Fields

variable {α : Type}

/-- The value of a field that may be absent. -/
def optional (name : String) (read : Value → Option α) (absent : α) (fs : Fields) : Option α :=
  match fs.lookup name with
  | some v => read v
  | none => some absent

/-- The value of a field that has to be there. -/
def required (name : String) (read : Value → Option α) (fs : Fields) : Option α :=
  (fs.lookup name).bind read

end Fields

end Logbook.Json
