/-
# Tables of objects

Objects that are shared are kept in tables and named by references. A table only grows, so a
reference that it has handed out stays good.

Key definitions: `Ref`, `Table`, `Table.get`, `Table.put`, `Table.insert`.
-/

namespace Logbook

/-- A reference to an object of a table. -/
@[ext] structure Ref (α : Type) where
  index : Nat

instance {α : Type} : DecidableEq (Ref α) := fun a b =>
  decidable_of_iff (a.index = b.index) ⟨Ref.ext, congrArg Ref.index⟩

/-- Objects by their references. -/
structure Table (α : Type) where
  items : Array α

namespace Table

variable {α : Type}

/-- A table without objects. -/
def empty : Table α := ⟨#[]⟩

/-- An object, or a fresh one where the table has none. -/
def get [Inhabited α] (t : Table α) (r : Ref α) : α := t.items.getD r.index default

/-- Replaces an object. -/
def put (r : Ref α) (a : α) (t : Table α) : Table α := ⟨t.items.setIfInBounds r.index a⟩

/-- Changes an object. -/
def update [Inhabited α] (r : Ref α) (f : α → α) (t : Table α) : Table α := t.put r (f (t.get r))

/-- Adds an object. -/
def insert (a : α) (t : Table α) : Ref α × Table α := (⟨t.items.size⟩, ⟨t.items.push a⟩)

@[simp] theorem get_insert [Inhabited α] (a : α) (t : Table α) :
    (t.insert a).2.get (t.insert a).1 = a := by
  simp [insert, get]

end Table

end Logbook
