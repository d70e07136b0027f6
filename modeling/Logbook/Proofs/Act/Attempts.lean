/-
# Actions that are made whatever the ones before raised

A program that handles what its actions raise makes all of them, one after the other, until the process
ends. What every single action preserves holds afterwards; and a program that does in each action what
another one does, as far as can be seen, does so as a whole.

Key definitions: `Act.beside`, `Act.attempts`, `Act.Along`, `Act.Follows`.
Key theorems: `Act.attempts_append`, `Act.attempts_preserves`, `Act.each_follows`, `Act.attempts_follows`.
-/
import Logbook.Proofs.Act.Frame

namespace Logbook.Act

variable {σ τ ρ α β : Type}

/-- An action beside something that it does not touch. -/
def beside (x : Act σ α) : Act (ρ × σ) α := fun (p, s) => ((x s).1, (p, (x s).2))

/-- Makes an action for each item in turn and says how each of them ended; only the end of the process
ends them early. -/
def attempts (f : α → Act σ β) : List α → Act σ (List (Except String β))
  | [] => Pure.pure []
  | a :: as => do
    let b ← attempt (f a)
    let bs ← attempts f as
    Pure.pure (b :: bs)

theorem attempts_cons (f : α → Act σ β) (a : α) (as : List α) (s : σ) :
    attempts f (a :: as) s =
      match f a s with
      | (.done b, s') => map (.ok b :: ·) (attempts f as) s'
      | (.raised m, s') => map (.error m :: ·) (attempts f as) s'
      | (.aborted, s') => (.aborted, s') := by
  simp only [attempts, bind_pure_eq_map, bind_run, attempt]
  rcases f a s with ⟨_ | _ | _, s'⟩ <;> rfl

theorem map_aborted (g : α → β) (x : Act σ α) (s : σ) :
    (map g x s).1 = .aborted ↔ (x s).1 = .aborted := by
  simp only [map]
  rcases (x s).1 with _ | _ | _ <;> simp [Outcome.map]

/-- After actions that end the process no others are made. -/
theorem attempts_append_of_aborted {f : α → Act σ β} (bs : List α) : ∀ (as : List α) {s : σ},
    (attempts f as s).1 = .aborted → (attempts f (as ++ bs) s).2 = (attempts f as s).2
  | a :: as, s, h => by
    rw [List.cons_append, attempts_cons, attempts_cons]
    rw [attempts_cons] at h
    generalize f a s = r at h ⊢
    rcases r with ⟨b | m | _, s'⟩
    · exact attempts_append_of_aborted bs as ((map_aborted _ _ s').mp h)
    · exact attempts_append_of_aborted bs as ((map_aborted _ _ s').mp h)
    · rfl

/-- After actions that do not end the process the others are made in the state that they leave
behind. -/
theorem attempts_append {f : α → Act σ β} (bs : List α) : ∀ (as : List α) {s : σ},
    (attempts f as s).1 ≠ .aborted →
      (attempts f (as ++ bs) s).2 = (attempts f bs (attempts f as s).2).2
  | [], _, _ => rfl
  | a :: as, s, h => by
    rw [List.cons_append, attempts_cons, attempts_cons]
    rw [attempts_cons] at h
    generalize f a s = r at h ⊢
    rcases r with ⟨b | m | _, s'⟩
    · exact attempts_append bs as fun he => h ((map_aborted _ _ s').mpr he)
    · exact attempts_append bs as fun he => h ((map_aborted _ _ s').mpr he)
    · exact absurd rfl h

/-- One more action is made in the state that the others leave behind, or not at all. -/
theorem attempts_concat (f : α → Act σ β) (as : List α) (a : α) (s : σ) :
    (attempts f (as ++ [a]) s).2 = (attempts f as s).2 ∨
      (attempts f (as ++ [a]) s).2 = (f a (attempts f as s).2).2 := by
  by_cases h : (attempts f as s).1 = .aborted
  · exact .inl (attempts_append_of_aborted [a] as h)
  · refine .inr ((attempts_append [a] as h).trans ?_)
    rw [attempts_cons]
    rcases f a (attempts f as s).2 with ⟨_ | _ | _, s'⟩ <;> rfl

/-- What every single action preserves, however it ends, holds after all of them. -/
theorem attempts_preserves {P : σ → Prop} {f : α → Act σ β} (hf : ∀ a s, P s → P (f a s).2) :
    ∀ (as : List α) {s : σ}, P s → P (attempts f as s).2
  | [], _, h => h
  | a :: as, s, h => by
    have hstep := hf a s h
    rw [attempts_cons]
    generalize f a s = r at hstep ⊢
    rcases r with ⟨_ | _ | _, s'⟩
    · exact attempts_preserves hf as hstep
    · exact attempts_preserves hf as hstep
    · exact hstep

/-- Something holds of each action that is made and of the state that it is made in. -/
def Along (f : α → Act σ β) (P : α → σ → Prop) : List α → σ → Prop
  | [], _ => True
  | a :: as, s => P a s ∧ ((f a s).1 ≠ .aborted → Along f P as (f a s).2)

instance Along.decide [DecidableEq β] (f : α → Act σ β) (P : α → σ → Prop)
    [∀ a s, Decidable (P a s)] : ∀ as s, Decidable (Along f P as s)
  | [], _ => .isTrue trivial
  | a :: as, s =>
    have : Decidable (Along f P as (f a s).2) := Along.decide f P as (f a s).2
    inferInstanceAs (Decidable (P a s ∧ ((f a s).1 ≠ .aborted → Along f P as (f a s).2)))

theorem along_of_forall {f : α → Act σ β} {P : α → σ → Prop} (h : ∀ a s, P a s) :
    ∀ as s, Along f P as s
  | [], _ => trivial
  | a :: as, s => ⟨h a s, fun _ => along_of_forall h as (f a s).2⟩

/-- A program does on what can be seen of a state what another program does on the state. -/
def Follows (view : τ → σ) (f : Act σ β) (g : Act τ β) (t : τ) : Prop :=
  f (view t) = ((g t).1, view (g t).2)

theorem Follows.map {view : τ → σ} {f : Act σ α} {g : Act τ α} {t : τ} (h : Follows view f g t)
    (k : α → β) : Follows view (Act.map k f) (Act.map k g) t := by
  rw [Follows] at h
  simp only [Follows, Act.map, h]

/-- A program that stops at its first early end follows another one that does so too, if each action
follows that of the other one. -/
theorem each_follows {view : τ → σ} {f : α → Act σ Unit} {g : α → Act τ Unit}
    (h : ∀ a t, Follows view (f a) (g a) t) : ∀ as t, Follows view (each f as) (each g as) t
  | [], _ => rfl
  | a :: as, t => by
    have hstep := h a t
    rw [Follows] at hstep
    rw [Follows, each_cons, each_cons, bind_run, bind_run, hstep]
    rcases g a t with ⟨_ | _ | _, t'⟩
    · exact each_follows h as t'
    · rfl
    · rfl

/-- A program that follows another one action by action does so as a whole, if an invariant of the other
one says so. -/
theorem attempts_follows {view : τ → σ} {I : τ → Prop} {P : α → σ → Prop} {f : α → Act σ β}
    {g : α → Act τ β}
    (h : ∀ a t, P a (view t) → I t → Follows view (f a) (g a) t ∧ I (g a t).2) :
    ∀ (as : List α) {t : τ}, Along f P as (view t) → I t →
      Follows view (attempts f as) (attempts g as) t ∧ I (attempts g as t).2
  | [], _, _, hinv => ⟨rfl, hinv⟩
  | a :: as, t, halong, hinv => by
    obtain ⟨hp, hrest⟩ := halong
    obtain ⟨hfollows, hinv'⟩ := h a t hp hinv
    rw [Follows] at hfollows
    rw [Follows, attempts_cons, attempts_cons]
    rw [hfollows] at hrest ⊢
    generalize g a t = q at hrest hinv' ⊢
    obtain ⟨o, t'⟩ := q
    rcases o with b | m | _
    · obtain ⟨hfollows', hinv''⟩ := attempts_follows h as (hrest (by simp)) hinv'
      rw [Follows] at hfollows'
      exact ⟨by simp only [map, hfollows'], hinv''⟩
    · obtain ⟨hfollows', hinv''⟩ := attempts_follows h as (hrest (by simp)) hinv'
      rw [Follows] at hfollows'
      exact ⟨by simp only [map, hfollows'], hinv''⟩
    · exact ⟨rfl, hinv'⟩

/-- The same where the invariant says it of every action. -/
theorem attempts_follows_of_invariant {view : τ → σ} {I : τ → Prop} {f : α → Act σ β} {g : α → Act τ β}
    (h : ∀ a t, I t → Follows view (f a) (g a) t ∧ I (g a t).2) (as : List α) {t : τ} (ht : I t) :
    Follows view (attempts f as) (attempts g as) t ∧ I (attempts g as t).2 :=
  attempts_follows (P := fun _ _ => True) (fun a t _ => h a t) as
    (along_of_forall (fun _ _ => trivial) as _) ht

theorem attempts_follows_of_forall {view : τ → σ} {f : α → Act σ β} {g : α → Act τ β}
    (h : ∀ a t, Follows view (f a) (g a) t) (as : List α) (t : τ) :
    Follows view (attempts f as) (attempts g as) t :=
  (attempts_follows_of_invariant (I := fun _ => True) (fun a t _ => ⟨h a t, trivial⟩) as trivial).1

end Logbook.Act
