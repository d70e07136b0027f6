/-
# The open scopes stay

Only entering and leaving a scope changes which scopes are open. Statements, forwarders, writers,
streams, redirections and the set-up leave them as they are, however they end.

Key theorems: `Statement.run_scopes`, `Writer.giveUp_scopes`, `Facility.onStream_scopes`,
`Redirection.giveUp_scopes`, `Facility.install_scopes`.
-/
import Logbook.Facility.Startup
import Logbook.Facility.Statement
import Logbook.Proofs.Facility.Writing

namespace Logbook

open Act (Keeps)

namespace Facility

theorem deliver_scopes (s : Option (Ref Sink)) (r : Record) : Keeps scopes (deliver s r) :=
  (deliver_keeps s r).map Bearings.scopes

theorem report_scopes (s : Ref Sink) (r : Record) : Keeps scopes (report s r) :=
  (report_keeps s r).map Bearings.scopes

theorem carry_scopes (e : Event) : Keeps scopes (carry e) := (carry_keeps e).map Bearings.scopes

theorem updateRegistry_scopes (r : Option (Ref Registry)) (f : Registry → Registry) (x : Facility) :
    (x.updateRegistry r f).scopes = x.scopes := by
  cases r <;> rfl

end Facility

open Facility (Bearings scopes)

theorem Statement.run_scopes (k : Statement) (site : Site) (category : Option String)
    (message : String) : Keeps scopes (k.run site category message) :=
  .bind (.inspect _) fun _ =>
    .ite (.bind (Facility.deliver_scopes _ _) fun _ => .pure _) (.pure _)

theorem assertion_scopes (site : Site) (holds : Bool) (condition : String)
    (remark : Option String) : Keeps scopes (assertion site holds condition remark) := by
  unfold assertion
  exact .ite (.pure _) (.bind (Statement.run_scopes _ _ _ _) fun _ => .pure _)

/-- The scopes that are open in the facility beside a forwarder, a writer or a redirection. -/
def scopesBeside {α : Type} (p : α × Facility) : List (Ref Sink) := p.2.scopes

namespace Forwarder

theorem emit_scopes (f : Forwarder) (line : List UInt8) :
    Keeps scopes (emit Facility.outlet f line) := (emit_keeps f line).map Bearings.scopes

theorem write_scopes (bs : List UInt8) : Keeps scopesBeside (write Facility.outlet bs) :=
  (write_keeps bs).map Bearings.scopes

theorem flush_scopes : Keeps scopesBeside (flush Facility.outlet) := flush_keeps.map Bearings.scopes

end Forwarder

namespace Writer

theorem write_scopes (bs : List UInt8) : Keeps scopesBeside (write bs) :=
  (write_keeps bs).map Bearings.scopes

theorem writeAll_scopes (bs : List UInt8) : Keeps scopesBeside (writeAll bs) :=
  (writeAll_keeps bs).map Bearings.scopes

theorem flush_scopes : Keeps scopesBeside flush := flush_keeps.map Bearings.scopes

theorem giveUp_scopes (w : Writer) : Keeps scopes (giveUp w) := (giveUp_keeps w).map Bearings.scopes

end Writer

namespace Facility

theorem onStream_scopes {α : Type} (s : Ref Writer) {act : Act (Writer × Facility) α}
    (h : Keeps scopesBeside act) : Keeps scopes (onStream s act) := fun x =>
  h (x.streams.get s, x)

theorem replaceWriter_scopes (s : Ref Writer) (w : Writer) : Keeps scopes (replaceWriter s w) :=
  fun _ => rfl

end Facility

namespace Redirection

theorem start_scopes (s : Ref Writer) (f : Forwarder) : Keeps scopes (start s f) := by
  refine .bind (.attempt (Facility.carry_scopes _)) fun r => ?_
  cases r with
  | ok _ => exact .bind (Facility.replaceWriter_scopes _ _) fun _ => .pure _
  | error m => exact .ensure (.raise m) (Writer.giveUp_scopes _)

theorem retire_scopes (w : Writer) : Keeps scopes (retire w) := (retire_keeps w).map Bearings.scopes

theorem reset_scopes : Keeps scopesBeside reset := by
  rintro ⟨r, x⟩
  simp only [reset]
  split
  · rfl
  · exact retire_scopes _ _

theorem giveUp_scopes (r : Redirection) : Keeps scopes (giveUp r) := fun x => reset_scopes (r, x)

end Redirection

namespace Facility

theorem startupRemarks_scopes (s : Settings) : Keeps scopes (startupRemarks s) :=
  .bind (carry_scopes _) fun _ => .ite (carry_scopes _) (.pure _)

theorem install_scopes (s : Settings) (clock : Option (Ref Clock)) :
    Keeps scopes (install s clock) := by
  intro x
  simp only [install]
  repeat' split
  all_goals first
    | rfl
    | exact startupRemarks_scopes s _

end Facility

end Logbook
