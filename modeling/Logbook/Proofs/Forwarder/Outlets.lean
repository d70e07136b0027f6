/-
# Outlets that do the same

A forwarder meets the state around it in its outlet alone. So where one outlet does, on what can be seen of
a state, what another one does on the state, a forwarder does through the first what it does through the
second. The two may be an outlet and the same one overheard, with a list beside the state of all that it is
handed; or an outlet and itself, on a state that was changed where it does not look.

Key definitions: `Outlet.Follows`, `Outlet.overheard`.
Key theorems: `Forwarder.write_follows`, `Forwarder.flush_follows`.
-/
import Logbook.Forwarder
import Logbook.Proofs.Act.Attempts

namespace Logbook

variable {σ τ : Type}

namespace Outlet

/-- An outlet does on what can be seen of a state what another one does on the state. -/
structure Follows (view : τ → σ) (o : Outlet σ) (q : Outlet τ) : Prop where
  level : ∀ f t, o.level f (view t) = q.level f t
  report : ∀ f r t, Act.Follows view (o.report f r) (q.report f r) t

/-- An outlet beside which all that is handed to it is written down, in order, however its reports
end. -/
def overheard (o : Outlet σ) : Outlet (σ × List Record) where
  level f p := o.level f p.1
  report f r := fun (s, heard) =>
    let q := o.report f r s
    (q.1, (q.2, heard ++ [r]))

/-- An outlet is none the wiser for being overheard. -/
theorem follows_overheard (o : Outlet σ) : o.Follows Prod.fst o.overheard :=
  ⟨fun _ _ => rfl, fun _ _ _ => rfl⟩

end Outlet

namespace Forwarder

variable {view : τ → σ} {o : Outlet σ} {q : Outlet τ} (h : o.Follows view q)
include h

theorem emit_follows (f : Forwarder) (line : List UInt8) (t : τ) :
    Act.Follows view (emit o f line) (emit q f line) t := by
  rw [Act.Follows, emit, emit, h.level]
  by_cases ho : f.isOpen (q.level f t) = true
  · rw [if_pos ho, if_pos ho]
    exact h.report f _ t
  · rw [if_neg ho, if_neg ho]

theorem write_follows (bs : List UInt8) (p : Forwarder × τ) :
    Act.Follows (Prod.map id view) (write o bs) (write q bs) p := by
  obtain ⟨f, t⟩ := p
  have heach := Act.each_follows (emit_follows h f) (cutLines f.pending bs).1 t
  rw [Act.Follows] at heach
  simp only [Act.Follows, Prod.map_apply, id_eq, write, heach]
  rcases Act.each (emit q f) (cutLines f.pending bs).1 t with ⟨_ | _ | _, t'⟩ <;> rfl

theorem flush_follows (p : Forwarder × τ) :
    Act.Follows (Prod.map id view) (flush o) (flush q) p := by
  obtain ⟨f, t⟩ := p
  have hemit := emit_follows h f f.pending t
  rw [Act.Follows] at hemit
  simp only [Act.Follows, Prod.map_apply, id_eq, flush, hemit]
  split <;> rfl

end Forwarder

end Logbook
