/-
# Actions that may stop early

A logging call is a small program: it changes the state of the log facility and then returns,
raises a message that unwinds to the nearest handler, or stops the process for good. `Act σ α` is
such a program over a state `σ`. Whatever the ending, a state is left behind, so that what was
written before a message was raised stays written.

`Act.ensure` runs a clean-up on the way out, also while unwinding; a clean-up that raises while a
message is already on its way stops the process, as nobody could handle two messages at once.

Key definitions: `Outcome`, `Act`, `Act.ensure`, `Act.attempt`, `Act.each`, `Act.focus`.
-/

namespace Logbook

/-- How an action ends: with a value, with a message that unwinds to the nearest handler, or with
the end of the process. -/
inductive Outcome (α : Type) where
  | done (value : α)
  | raised (message : String)
  | aborted
  deriving DecidableEq

namespace Outcome

variable {α β : Type}

/-- Changes the value of an action that returned. -/
def map (f : α → β) : Outcome α → Outcome β
  | .done a => .done (f a)
  | .raised m => .raised m
  | .aborted => .aborted

/-- How an action ends whose clean-up ended with the second outcome: a clean-up that returns
leaves the ending alone, and one that raises while a message is on its way stops the process. -/
def afterCleanup : Outcome α → Outcome Unit → Outcome α
  | .done a, .done () => .done a
  | .done _, .raised m => .raised m
  | .raised m, .done () => .raised m
  | .raised _, .raised _ => .aborted
  | .aborted, _ => .aborted
  | _, .aborted => .aborted

end Outcome

/-- An action on a state `σ` with a value in `α`. -/
def Act (σ α : Type) : Type := σ → Outcome α × σ

namespace Act

variable {σ τ α β : Type}

/-- Returns at once. -/
protected def pure (a : α) : Act σ α := fun s => (.done a, s)

/-- One action after the other; what follows an early end is not run. -/
protected def bind (x : Act σ α) (f : α → Act σ β) : Act σ β := fun s =>
  match x s with
  | (.done a, s') => f a s'
  | (.raised m, s') => (.raised m, s')
  | (.aborted, s') => (.aborted, s')

instance : Monad (Act σ) where
  pure := Act.pure
  bind := Act.bind

/-- The state. -/
def read : Act σ σ := fun s => (.done s, s)

/-- What can be told from the state. -/
def inspect (f : σ → α) : Act σ α := fun s => (.done (f s), s)

/-- Changes the state. -/
def modify (f : σ → σ) : Act σ Unit := fun s => (.done (), f s)

/-- Raises a message. -/
def raise (message : String) : Act σ α := fun s => (.raised message, s)

/-- Stops the process. -/
def abort : Act σ α := fun s => (.aborted, s)

/-- Runs `cleanup` after `x`, however `x` ends, unless the process is stopped. -/
def ensure (x : Act σ α) (cleanup : Act σ Unit) : Act σ α := fun s =>
  match x s with
  | (.aborted, s') => (.aborted, s')
  | (o, s') =>
    let c := cleanup s'
    (o.afterCleanup c.1, c.2)

/-- Handles a message that `x` raises. -/
def attempt (x : Act σ α) : Act σ (Except String α) := fun s =>
  match x s with
  | (.done a, s') => (.done (.ok a), s')
  | (.raised m, s') => (.done (.error m), s')
  | (.aborted, s') => (.aborted, s')

/-- Runs `f` on each item in turn, up to the first early end. -/
def each (f : α → Act σ Unit) : List α → Act σ Unit
  | [] => Act.pure ()
  | a :: as => Act.bind (f a) fun _ => each f as

/-- Runs an action on a part of the state. -/
def focus (view : σ → τ) (put : τ → σ → σ) (x : Act τ α) : Act σ α := fun s =>
  let r := x (view s)
  (r.1, put r.2 s)

@[simp] theorem pure_run (a : α) (s : σ) : (Pure.pure a : Act σ α) s = (.done a, s) := rfl

theorem bind_run (x : Act σ α) (f : α → Act σ β) (s : σ) :
    (x >>= f) s =
      match x s with
      | (.done a, s') => f a s'
      | (.raised m, s') => (.raised m, s')
      | (.aborted, s') => (.aborted, s') := rfl

end Act

end Logbook
