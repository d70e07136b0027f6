/-
# What became of the writers of a stream

Every writer that comes to a stream is entered under the next number. What it is told is entered under
its number, and so is what it cuts. So a writer is at any time the one that came, told what is entered
for it; and what a forwarder has cut are the segments of what it was told, over its whole life, wherever it
stood in between.

Key definitions: `Records`, `Records.writer`, `Records.tell`, `Records.Written`, `Records.Flushed`.
Key theorems: `Records.writer_noting_self`, `Records.written_tell`, `Records.flushed_tell`.
-/
import Logbook.Proofs.Stream.Errands

namespace Logbook

open Forwarder (Heard Tick segments since)

/-! ### Entries -/

/-- What is entered under a number. -/
def entriesOf {α : Type} (i : Nat) (es : List (Nat × α)) : List α :=
  es.filterMap fun e => if e.1 = i then some e.2 else none

section Entries

variable {α : Type}

theorem entriesOf_append (i : Nat) (es ds : List (Nat × α)) :
    entriesOf i (es ++ ds) = entriesOf i es ++ entriesOf i ds := List.filterMap_append

@[simp] theorem entriesOf_map_self (i : Nat) (as : List α) :
    entriesOf i (as.map (Prod.mk i)) = as := by
  induction as with
  | nil => rfl
  | cons a as ih =>
    rw [List.map_cons, entriesOf, List.filterMap_cons, if_pos rfl]
    exact congrArg (List.cons a) ih

/-- Nothing is entered under a number if everything is entered under others. -/
theorem entriesOf_eq_nil {i : Nat} {es : List (Nat × α)} (h : ∀ e ∈ es, e.1 ≠ i) :
    entriesOf i es = [] := by
  refine List.filterMap_eq_nil_iff.mpr fun e he => ?_
  rw [if_neg (h e he)]

theorem entriesOf_map_of_ne {i j : Nat} (h : i ≠ j) (as : List α) :
    entriesOf j (as.map (Prod.mk i)) = [] := by
  refine entriesOf_eq_nil fun e he => ?_
  obtain ⟨a, -, rfl⟩ := List.mem_map.mp he
  exact h

/-- Nothing is entered under a number that nobody has. -/
theorem entriesOf_of_lt {n : Nat} {es : List (Nat × α)} (h : ∀ e ∈ es, e.1 < n) :
    entriesOf n es = [] := entriesOf_eq_nil fun e he => Nat.ne_of_lt (h e he)

end Entries

/-! ### Records -/

/-- What became of the writers of a stream. -/
structure Records where
  /-- Every writer, as it came. -/
  arrivals : List Writer
  /-- What was told, and to whom. -/
  log : List (Nat × Tick)
  /-- What was cut, by whom, and the level of the registry at that moment. -/
  cuts : List (Nat × List UInt8 × Level)

namespace Records

/-- What a writer was told. -/
def told (r : Records) (i : Nat) : List Tick := entriesOf i r.log

/-- What a writer has cut. -/
def cutsBy (r : Records) (i : Nat) : List (List UInt8 × Level) := entriesOf i r.cuts

/-- A writer as it came. -/
def arrival (r : Records) (i : Nat) : Writer := r.arrivals.getD i default

/-- A writer as it is now. -/
def writer (r : Records) (i : Nat) : Writer := (r.arrival i).having (r.told i)

/-- What a writer heard is entered. -/
def noting (i : Nat) (h : Heard) (r : Records) : Records where
  arrivals := r.arrivals
  log := r.log ++ h.ticks.map (Prod.mk i)
  cuts := r.cuts ++ h.cuts.map (Prod.mk i)

/-- A writer comes. -/
def arriving (w : Writer) (r : Records) : Records := { r with arrivals := r.arrivals ++ [w] }

/-- A writer is asked for something. -/
def tell (i : Nat) (e : Errand) : Act (Records × Facility) (Except Fault Nat) := fun (r, x) =>
  let a := (r.writer i).attend e (Heard.nothing, x)
  (a.1, (r.noting i a.2.1, a.2.2))

theorem told_noting_self (i : Nat) (h : Heard) (r : Records) :
    (r.noting i h).told i = r.told i ++ h.ticks := by
  simp [told, noting, entriesOf_append]

theorem told_noting_of_ne {i j : Nat} (hij : i ≠ j) (h : Heard) (r : Records) :
    (r.noting i h).told j = r.told j := by
  simp [told, noting, entriesOf_append, entriesOf_map_of_ne hij]

theorem cutsBy_noting_self (i : Nat) (h : Heard) (r : Records) :
    (r.noting i h).cutsBy i = r.cutsBy i ++ h.cuts := by
  simp [cutsBy, noting, entriesOf_append]

theorem cutsBy_noting_of_ne {i j : Nat} (hij : i ≠ j) (h : Heard) (r : Records) :
    (r.noting i h).cutsBy j = r.cutsBy j := by
  simp [cutsBy, noting, entriesOf_append, entriesOf_map_of_ne hij]

theorem writer_noting_self (i : Nat) (h : Heard) (r : Records) :
    (r.noting i h).writer i = (r.writer i).having h.ticks := by
  rw [writer, told_noting_self, Writer.having_append]
  rfl

theorem arrival_of_some {r : Records} {i : Nat} {w : Writer} (h : r.arrivals[i]? = some w) :
    r.arrival i = w := by
  simp [arrival, List.getD_eq_getElem?_getD, h]

/-- The records are in order: everything is entered under the number of a writer, and what a forwarder
has cut are the segments of what it was told. -/
structure Written (r : Records) : Prop where
  log_lt : ∀ e ∈ r.log, e.1 < r.arrivals.length
  cuts_lt : ∀ e ∈ r.cuts, e.1 < r.arrivals.length
  cuts_eq : ∀ i f, r.arrivals[i]? = some (.forwarder f) →
    (r.cutsBy i).map Prod.fst = segments f.pending (r.told i)

/-- If a writer is a forwarder, then the last that it was told is a flush. -/
def Flushed (r : Records) (i : Nat) : Prop :=
  ∀ f, r.arrivals[i]? = some (.forwarder f) → ∃ ts, r.told i = ts ++ [.flush]

variable {r : Records} {i : Nat}

theorem written_noting (hr : r.Written) (hi : i < r.arrivals.length) {h : Heard}
    (hcuts : ∀ f, r.arrivals[i]? = some (.forwarder f) →
      h.cuts.map Prod.fst = segments (since f.pending (r.told i)) h.ticks) :
    (r.noting i h).Written where
  log_lt e he := by
    rcases List.mem_append.mp he with he | he
    · exact hr.log_lt e he
    · obtain ⟨t, -, rfl⟩ := List.mem_map.mp he
      exact hi
  cuts_lt e he := by
    rcases List.mem_append.mp he with he | he
    · exact hr.cuts_lt e he
    · obtain ⟨c, -, rfl⟩ := List.mem_map.mp he
      exact hi
  cuts_eq j f hj := by
    by_cases hij : i = j
    · subst hij
      rw [cutsBy_noting_self, told_noting_self, Forwarder.segments_append, List.map_append,
        hr.cuts_eq i f hj, hcuts f hj]
    · rw [cutsBy_noting_of_ne hij, told_noting_of_ne hij]
      exact hr.cuts_eq j f hj

/-- Whatever a writer is asked for, the records stay in order. -/
theorem written_tell (hr : r.Written) (hi : i < r.arrivals.length) (e : Errand) (x : Facility) :
    (tell i e (r, x)).2.1.Written := by
  refine written_noting hr hi fun f hf => ?_
  rw [writer, arrival_of_some hf]
  exact Writer.cuts_attend _ e x

theorem written_arriving (hr : r.Written) (w : Writer) : (r.arriving w).Written where
  log_lt e he := by
    have := hr.log_lt e he
    simp only [arriving, List.length_append, List.length_singleton]
    omega
  cuts_lt e he := by
    have := hr.cuts_lt e he
    simp only [arriving, List.length_append, List.length_singleton]
    omega
  cuts_eq j f hj := by
    rcases Nat.lt_or_ge j r.arrivals.length with hlt | hge
    · exact hr.cuts_eq j f (by rwa [arriving, List.getElem?_append_left hlt] at hj)
    · -- nothing has been entered for the writer that has just come
      obtain ⟨hlt, -⟩ := List.getElem?_eq_some_iff.mp hj
      have hj : j = r.arrivals.length := by
        simp only [arriving, List.length_append, List.length_singleton] at hlt
        omega
      subst hj
      have htold : (r.arriving w).told r.arrivals.length = [] := entriesOf_of_lt hr.log_lt
      have hcuts : (r.arriving w).cutsBy r.arrivals.length = [] := entriesOf_of_lt hr.cuts_lt
      rw [htold, hcuts]
      rfl

theorem arrival_arriving (hi : i < r.arrivals.length) (w : Writer) :
    (r.arriving w).arrival i = r.arrival i := by
  simp [arrival, arriving, List.getD_eq_getElem?_getD, List.getElem?_append_left hi]

theorem writer_arriving_of_lt (hi : i < r.arrivals.length) (w : Writer) :
    (r.arriving w).writer i = r.writer i := by
  rw [writer, arrival_arriving hi]
  rfl

theorem writer_arriving_new (hr : r.Written) (w : Writer) :
    (r.arriving w).writer r.arrivals.length = w := by
  have harrival : (r.arriving w).arrival r.arrivals.length = w := by
    simp [arrival, arriving, List.getD_eq_getElem?_getD]
  have htold : (r.arriving w).told r.arrivals.length = [] := entriesOf_of_lt hr.log_lt
  rw [writer, harrival, htold, Writer.having_nil]

theorem flushed_arriving {w : Writer} (h : r.Flushed i) (hi : i < r.arrivals.length) :
    (r.arriving w).Flushed i := by
  intro f hf
  exact h f (by rwa [arriving, List.getElem?_append_left hi] at hf)

/-- A forwarder hears the flush that it is told, however that ends. -/
theorem flushed_tell (r : Records) (i : Nat) (x : Facility) :
    (tell i .flush (r, x)).2.1.Flushed i := by
  intro f hf
  have hf : r.arrivals[i]? = some (.forwarder f) := hf
  have hwriter : r.writer i = .forwarder (f.holding (since f.pending (r.told i))) := by
    rw [writer, arrival_of_some hf]
    rfl
  refine ⟨r.told i, ?_⟩
  simp only [tell, told_noting_self, hwriter, Writer.ticks_attend_flush]

end Records

end Logbook
