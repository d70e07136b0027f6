/-
# Files

The files of the working directory by their names, and files elsewhere by their paths. A log file is
created empty, or emptied if it is there already, and written through a handle that remembers how
far it has come; a handle on a file that was emptied under it leaves a stretch of zero bytes before
what it writes.

A path is walked part by part. Every part but the last has to lead to a directory, and the last has
to name a file: a path that ends in a slash or in dots means a directory. The working directory has
no directories in it; outside of it only some of the usual ones are known, from two tables.

Key definitions: `Disk`, `Disk.resolve`, `Disk.create`, `Disk.write`, `FileFault`.
-/

namespace Logbook

/-- Why a file cannot be created. -/
inductive FileFault where
  | notFound
  | notDirectory
  | isDirectory
  | nameTooLong
  | zeroInName
  deriving DecidableEq

/-- The wording of a failure. -/
def FileFault.message : FileFault → String
  | .notFound => "No such file or directory (os error 2)"
  | .notDirectory => "Not a directory (os error 20)"
  | .isDirectory => "Is a directory (os error 21)"
  | .nameTooLong => "File name too long (os error 36)"
  | .zeroInName => "file name contained an unexpected NUL byte"

/-- Files in the order of their creation. -/
structure Disk where
  files : List (String × Array UInt8)
  deriving DecidableEq

/-- A file that is being written, and how far. -/
structure FileHandle where
  name : String
  offset : Nat
  deriving DecidableEq

/-- A handle that has come further. -/
def FileHandle.advance (n : Nat) (h : FileHandle) : FileHandle := { h with offset := h.offset + n }

namespace Disk

/-- Whether a file of this name is there. -/
def has (d : Disk) (name : String) : Bool := (d.files.lookup name).isSome

/-- Where a walk along a path has come to. -/
inductive Standing where
  /-- The working directory. -/
  | here
  /-- A directory that is known by the names that lead to it from the root. -/
  | under (names : List String)
  /-- Any other directory. -/
  | away
  deriving DecidableEq

namespace Standing

/-- The directory around a directory; the root is its own. -/
def parent : Standing → Standing
  | .under names => .under names.dropLast
  | .here | .away => .away

/-- The directories that are known by their names. They are the usual ones of a Unix system, in the place of
those that a program finds; nothing is proved of which ones they are. -/
def directories : List (List String) :=
  [["bin"], ["dev"], ["etc"], ["home"], ["lib"], ["opt"], ["proc"], ["root"], ["tmp"], ["usr"],
   ["usr", "bin"], ["usr", "lib"], ["var"], ["var", "log"], ["var", "tmp"]]

/-- The files that are known by their names, likewise. -/
def files : List (List String) :=
  [["dev", "null"], ["dev", "zero"], ["dev", "full"], ["etc", "passwd"], ["etc", "hosts"]]

/-- The directory that a name leads to from a place that is no working directory. -/
def enter (s : Standing) (name : String) : Except FileFault Standing :=
  match s with
  | .under names =>
    let names := names ++ [name]
    if directories.contains names then .ok (.under names)
    else .error (if files.contains names then .notDirectory else .notFound)
  | .here | .away => .error .notFound

/-- Whether a name leads to a directory that is known. -/
def leadsToDirectory (s : Standing) (name : String) : Bool :=
  match s with
  | .under names => directories.contains (names ++ [name])
  | .here | .away => false

end Standing

/-- The most bytes that a name may have. -/
def longestName : Nat := 255

/-- The most bytes that a path may have. -/
def longestPath : Nat := 4095

/-- The directory that a name leads to. -/
def enter (d : Disk) (s : Standing) (name : String) : Except FileFault Standing :=
  if name = "." then .ok s
  else if name = ".." then .ok s.parent
  else if longestName < name.utf8ByteSize then .error .nameTooLong
  else if s = .here ∧ d.has name then .error .notDirectory
  else s.enter name

/-- The file that the last name of a path means: in the working directory it goes by its name, and
anywhere else by the whole path. -/
def fileAt (s : Standing) (path name : String) : Except FileFault String :=
  if name = "." || name = ".." || path.endsWith "/" then .error .isDirectory
  else if longestName < name.utf8ByteSize then .error .nameTooLong
  else if s.leadsToDirectory name then .error .isDirectory
  else .ok (if s = .here then name else path)

/-- Walks along the names of a path. -/
def walk (d : Disk) (path : String) (s : Standing) : List String → Except FileFault String
  | [] => .error .isDirectory
  | [name] => fileAt s path name
  | name :: rest => (d.enter s name).bind fun s => d.walk path s rest

/-- The names between the slashes of a path. -/
def names (path : String) : List String := (path.splitOn "/").filter (· ≠ "")

/-- The file that a path means. -/
def resolve (d : Disk) (path : String) : Except FileFault String :=
  if path.toList.contains '\x00' then .error .zeroInName
  else if path.isEmpty then .error .notFound
  else if longestPath < path.utf8ByteSize then .error .nameTooLong
  else d.walk path (if path.startsWith "/" then .under [] else .here) (names path)

/-- Changes the content of a file; one that is not there is empty before. -/
def change (name : String) (f : Array UInt8 → Array UInt8) (d : Disk) : Disk :=
  if d.has name then ⟨d.files.map fun x => if x.1 = name then (name, f x.2) else x⟩
  else ⟨d.files ++ [(name, f #[])]⟩

/-- Creates a file, or empties the one that is there. -/
def create (path : String) (d : Disk) : Except FileFault (FileHandle × Disk) :=
  (d.resolve path).map fun name => (⟨name, 0⟩, d.change name fun _ => #[])

/-- A content after bytes were written at a place in it; a stretch between the two is zero. -/
def overwrite (offset : Nat) (bs : List UInt8) (content : Array UInt8) : Array UInt8 :=
  if content.size ≤ offset then content ++ List.replicate (offset - content.size) (0 : UInt8) ++ bs
  else content.extract 0 offset ++ bs ++ content.extract (offset + bs.length) content.size

/-- Writes through a handle, at the place that it has come to. -/
def write (bs : List UInt8) (h : FileHandle) (d : Disk) : Disk :=
  d.change h.name (overwrite h.offset bs)

end Disk

end Logbook
