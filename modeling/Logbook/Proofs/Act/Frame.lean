/-
# How actions run, and what they leave alone

An action that begins with another one goes on only if that one returned; a list of actions is
run like its parts one after the other. An action *keeps* a view of the state when the view is the
same afterwards, however the action ends; what is built from actions that keep a view keeps it. An
action is *blind* to a change of the state when it runs the same after it and leaves it in place.

Key definitions: `Act.map`, `Act.caught`, `Act.Keeps`, `Act.Blind`.
Key theorems: `Act.each_append`, `Act.Keeps.bind`, `Act.Keeps.ensure`, `Act.Blind.bind`.
-/
import Logbook.Act

namespace Logbook.Act

variable {σ τ ρ α β γ : Type}

/-! ### Running -/

theorem bind_of_done {x : Act σ α} {s s' : σ} {a : α} (f : α → Act σ β)
    (h : x s = (.done a, s')) : (x >>= f) s = f a s' := by
  rw [bind_run, h]

theorem bind_of_raised {x : Act σ α} {s s' : σ} {m : String} (f : α → Act σ β)
    (h : x s = (.raised m, s')) : (x >>= f) s = (.raised m, s') := by
  rw [bind_run, h]

theorem bind_of_aborted {x : Act σ α} {s s' : σ} (f : α → Act σ β)
    (h : x s = (.aborted, s')) : (x >>= f) s = (.aborted, s') := by
  rw [bind_run, h]

theorem bind_congr {x y : Act σ α} {s : σ} (f : α → Act σ β) (h : x s = y s) :
    (x >>= f) s = (y >>= f) s := by
  rw [bind_run, bind_run, h]

theorem read_bind (f : σ → Act σ α) (s : σ) : (read >>= f) s = f s s := rfl

theorem modify_bind (g : σ → σ) (f : Unit → Act σ α) (s : σ) : (modify g >>= f) s = f () (g s) := rfl

/-- What returns although something follows a first part returns from the first part already. -/
theorem done_of_bind {x : Act σ α} {f : α → Act σ β} {s s' : σ} {b : β}
    (h : (x >>= f) s = (.done b, s')) : ∃ a s₁, x s = (.done a, s₁) ∧ f a s₁ = (.done b, s') := by
  rw [bind_run] at h
  rcases hx : x s with ⟨_ | _ | _, s₁⟩ <;> rw [hx] at h
  · exact ⟨_, s₁, rfl, h⟩
  · simp at h
  · simp at h

theorem ensure_run (x : Act σ α) (cleanup : Act σ Unit) (s : σ) :
    ensure x cleanup s =
      match x s with
      | (.done a, s') => ((Outcome.done a).afterCleanup (cleanup s').1, (cleanup s').2)
      | (.raised m, s') => ((Outcome.raised m).afterCleanup (cleanup s').1, (cleanup s').2)
      | (.aborted, s') => (.aborted, s') := by
  unfold ensure
  rcases x s with ⟨_ | _ | _, s'⟩ <;> rfl

/-- A clean-up that does nothing. -/
theorem ensure_of_idle (x : Act σ α) {cleanup : Act σ Unit} (h : ∀ s, cleanup s = (.done (), s)) :
    ensure x cleanup = x := by
  funext s
  rw [ensure_run]
  rcases x s with ⟨_ | _ | _, s'⟩ <;> simp only [h] <;> rfl

theorem each_cons (f : α → Act σ Unit) (a : α) (as : List α) :
    each f (a :: as) = (f a >>= fun _ => each f as) := rfl

theorem each_singleton (f : α → Act σ Unit) (a : α) : each f [a] = f a := by
  funext s
  rw [each_cons, bind_run]
  rcases f a s with ⟨_ | _ | _, s'⟩ <;> rfl

theorem each_append (f : α → Act σ Unit) (as bs : List α) :
    each f (as ++ bs) = (each f as >>= fun _ => each f bs) := by
  funext s
  induction as generalizing s with
  | nil => rfl
  | cons a as ih =>
    rw [List.cons_append, each_cons, each_cons, bind_run, bind_run, bind_run]
    rcases f a s with ⟨_ | _ | _, s'⟩
    · simp only [ih s', bind_run]
    · rfl
    · rfl

theorem each_map (f : β → Act σ Unit) (g : α → β) : ∀ as : List α,
    each f (as.map g) = each (fun a => f (g a)) as
  | [] => rfl
  | a :: as => congrArg (fun rest => f (g a) >>= fun _ => rest) (each_map f g as)

/-- A list of actions that returns can be cut anywhere. -/
theorem done_of_each_append {f : α → Act σ Unit} {as bs : List α} {s s' : σ}
    (h : each f (as ++ bs) s = (.done (), s')) :
    ∃ s₁, each f as s = (.done (), s₁) ∧ each f bs s₁ = (.done (), s') := by
  rw [each_append] at h
  obtain ⟨a, s₁, h₁, h₂⟩ := done_of_bind h
  exact ⟨s₁, h₁, h₂⟩

/-- What every single action preserves, however it ends, a list of them preserves too. -/
theorem each_preserves {P : σ → Prop} {f : α → Act σ Unit} (hf : ∀ a s, P s → P (f a s).2) :
    ∀ (as : List α) {s : σ}, P s → P (each f as s).2
  | [], _, h => h
  | a :: as, s, h => by
    have hstep := hf a s h
    rw [each_cons, bind_run]
    generalize f a s = r at hstep ⊢
    rcases r with ⟨_ | _ | _, s'⟩
    · exact each_preserves hf as hstep
    · exact hstep
    · exact hstep

/-! ### Values -/

/-- An action with another value. -/
def map (f : α → β) (x : Act σ α) : Act σ β := fun s => ((x s).1.map f, (x s).2)

/-- Handles a message that an action raises, and says what it was. -/
def caught (x : Act σ Unit) : Act σ (Option String) := fun s =>
  match x s with
  | (.done (), s') => (.done none, s')
  | (.raised m, s') => (.done (some m), s')
  | (.aborted, s') => (.aborted, s')

theorem map_of_done {x : Act σ α} {s s' : σ} {a : α} (f : α → β) (h : x s = (.done a, s')) :
    map f x s = (.done (f a), s') := by
  simp only [map, h, Outcome.map]

/-- Another value makes no difference to a message that is raised. -/
theorem map_eq_raised {f : α → β} {x : Act σ α} {s s' : σ} {m : String} :
    map f x s = (.raised m, s') ↔ x s = (.raised m, s') := by
  simp only [map]
  rcases x s with ⟨_ | _ | _, s₁⟩ <;> simp [Outcome.map]

theorem map_unit (x : Act σ Unit) : map (fun _ => ()) x = x := by
  funext s
  simp only [map]
  rcases x s with ⟨_ | _ | _, s'⟩ <;> rfl

theorem map_map (g : β → γ) (f : α → β) (x : Act σ α) :
    map g (map f x) = map (fun a => g (f a)) x := by
  funext s
  simp only [map]
  rcases x s with ⟨_ | _ | _, s'⟩ <;> rfl

theorem map_bind (g : β → γ) (x : Act σ α) (f : α → Act σ β) :
    map g (x >>= f) = x >>= fun a => map g (f a) := by
  funext s
  simp only [map, bind_run]
  rcases x s with ⟨_ | _ | _, s'⟩ <;> rfl

theorem bind_pure_eq_map (f : α → β) (x : Act σ α) : (x >>= fun a => Pure.pure (f a)) = map f x := by
  funext s
  simp only [map, bind_run]
  rcases x s with ⟨_ | _ | _, s'⟩ <;> rfl

theorem map_ensure (f : α → β) (x : Act σ α) (cleanup : Act σ Unit) :
    map f (ensure x cleanup) = ensure (map f x) cleanup := by
  funext s
  simp only [map, ensure_run]
  rcases x s with ⟨_ | _ | _, s'⟩ <;> simp only [Outcome.map]
  · rcases cleanup s' with ⟨_ | _ | _, s''⟩ <;> rfl
  · rcases cleanup s' with ⟨_ | _ | _, s''⟩ <;> rfl

/-! ### Keeping -/

/-- An action leaves a view of the state as it is, however it ends. -/
def Keeps (view : σ → ρ) (x : Act σ α) : Prop := ∀ s, view (x s).2 = view s

namespace Keeps

variable {view : σ → ρ}

theorem pure (a : α) : Keeps view (Pure.pure a : Act σ α) := fun _ => rfl

theorem read : Keeps view (Act.read : Act σ σ) := fun _ => rfl

theorem inspect (f : σ → α) : Keeps view (Act.inspect f) := fun _ => rfl

theorem raise (m : String) : Keeps view (Act.raise m : Act σ α) := fun _ => rfl

theorem abort : Keeps view (Act.abort : Act σ α) := fun _ => rfl

theorem modify {f : σ → σ} (h : ∀ s, view (f s) = view s) : Keeps view (Act.modify f) := h

theorem bind {x : Act σ α} {f : α → Act σ β} (hx : Keeps view x) (hf : ∀ a, Keeps view (f a)) :
    Keeps view (x >>= f) := by
  intro s
  have h := hx s
  rw [bind_run]
  generalize x s = r at h ⊢
  rcases r with ⟨_ | _ | _, s'⟩
  · exact (hf _ s').trans h
  · exact h
  · exact h

theorem ensure {x : Act σ α} {cleanup : Act σ Unit} (hx : Keeps view x)
    (hc : Keeps view cleanup) : Keeps view (Act.ensure x cleanup) := by
  intro s
  have h := hx s
  unfold Act.ensure
  generalize x s = r at h ⊢
  rcases r with ⟨_ | _ | _, s'⟩
  · exact (hc s').trans h
  · exact (hc s').trans h
  · exact h

theorem attempt {x : Act σ α} (hx : Keeps view x) : Keeps view (Act.attempt x) := by
  intro s
  have h := hx s
  unfold Act.attempt
  generalize x s = r at h ⊢
  rcases r with ⟨_ | _ | _, s'⟩ <;> exact h

theorem each {f : α → Act σ Unit} (hf : ∀ a, Keeps view (f a)) :
    ∀ as, Keeps view (Act.each f as)
  | [] => fun _ => rfl
  | a :: as => (hf a).bind fun _ => each hf as

theorem ite {c : Prop} [Decidable c] {x y : Act σ α} (hx : Keeps view x) (hy : Keeps view y) :
    Keeps view (if c then x else y) := by
  split
  · exact hx
  · exact hy

/-- What is kept is also kept as far as something depends on it. -/
theorem map {x : Act σ α} (hx : Keeps view x) (f : ρ → τ) : Keeps (fun s => f (view s)) x :=
  fun s => congrArg f (hx s)

end Keeps

/-! ### Being blind to a change -/

/-- An action runs the same after a change of the state, and leaves the change in place. -/
def Blind (change : σ → σ) (x : Act σ α) : Prop :=
  ∀ s, x (change s) = ((x s).1, change (x s).2)

namespace Blind

variable {change : σ → σ}

theorem pure (a : α) : Blind change (Pure.pure a : Act σ α) := fun _ => rfl

theorem abort : Blind change (Act.abort : Act σ α) := fun _ => rfl

theorem inspect {f : σ → α} (h : ∀ s, f (change s) = f s) : Blind change (Act.inspect f) :=
  fun s => congrArg (fun a => (Outcome.done a, change s)) (h s)

theorem modify {f : σ → σ} (h : ∀ s, f (change s) = change (f s)) : Blind change (Act.modify f) :=
  fun s => congrArg (Prod.mk (Outcome.done ())) (h s)

theorem bind {x : Act σ α} {f : α → Act σ β} (hx : Blind change x)
    (hf : ∀ a, Blind change (f a)) : Blind change (x >>= f) := by
  intro s
  rw [bind_run, bind_run, hx s]
  rcases x s with ⟨_ | _ | _, t⟩
  · exact hf _ t
  · rfl
  · rfl

/-- An action may look at the state first, though not at what the change is about. -/
theorem read {f : σ → Act σ α} (h : ∀ s, f (change s) = f s) (hf : ∀ s, Blind change (f s)) :
    Blind change (Act.read >>= f) := by
  intro s
  show f (change s) (change s) = _
  rw [h s]
  exact hf s s

theorem ite {c : Prop} [Decidable c] {x y : Act σ α} (hx : Blind change x)
    (hy : Blind change y) : Blind change (if c then x else y) := by
  split
  · exact hx
  · exact hy

end Blind

end Logbook.Act
