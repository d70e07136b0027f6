/-
# Where a record goes, told by the scopes around it

A facility keeps the sinks of the open scopes in a stack. Here the scopes are handed in instead:
`post` takes a record to the sink that it was given, else to that of the innermost of the scopes
handed in, else to the process-wide one of that moment, else straight on as an event. It never looks
at the stack, nor behind the streams, and on a facility whose stack is what was handed in it does what
`deliver` does. The same holds for statements and forwarders that post their records.

Key definitions: `Facility.destination`, `Facility.post`, `Statement.runIn`, `Facility.outletIn`.
Key theorems: `Facility.deliver_eq_post`, `Facility.post_blind`, `Facility.deliver_blind`.
-/
import Logbook.Proofs.Facility.Scopes
import Logbook.Proofs.Forwarder.Outlets

namespace Logbook

open Act (Blind)

namespace Facility

/-- A facility in which other scopes are open. -/
def inScopes (scopes : List (Ref Sink)) (x : Facility) : Facility := { x with scopes }

/-- The sink that a record goes to: the given one, else that of the innermost scope, else the
process-wide one. -/
def destination (scopes : List (Ref Sink)) (given : Option (Ref Sink)) (x : Facility) :
    Option (Ref Sink) :=
  (given.or scopes.head?).or x.globalSink

/-- Takes a record to its sink, which it is reported to once, or hands it on as one event if there
is no sink at all. -/
def post (scopes : List (Ref Sink)) (given : Option (Ref Sink)) (r : Record) :
    Act Facility Unit := fun x =>
  match x.destination scopes given with
  | some k => report k r x
  | none => carry (.ofRecord r) x

/-- On a facility in which just these scopes are open, a record is posted. -/
theorem deliver_eq_post (given : Option (Ref Sink)) (r : Record) (x : Facility) :
    deliver given r x = post x.scopes given r x := by
  cases given with
  | some k => rfl
  | none =>
    simp only [deliver, dispatch, post, route, destination]
    cases x.scopes <;> rfl

/-! ### Where reporting does not look

A report looks neither at the stack of scopes, once it is known where it goes, nor at the streams. -/

/-- A facility with other scopes and other writers behind its streams. -/
def elsewhere (scopes : List (Ref Sink) → List (Ref Sink)) (streams : Table Writer → Table Writer)
    (x : Facility) : Facility :=
  { x with scopes := scopes x.scopes, streams := streams x.streams }

section Blindness

variable (a : List (Ref Sink) → List (Ref Sink)) (b : Table Writer → Table Writer)

theorem display_blind (k : Backend) (event : Event) : Blind (elsewhere a b) (display k event) := by
  intro x
  have hmoment : (x.elsewhere a b).moment k.formatter = x.moment k.formatter := rfl
  simp only [display, hmoment]
  split
  · rfl
  · split
    · rfl
    · split
      · rfl
      · simp only [writeLogFile]
        split <;> split <;> first | rfl | contradiction

theorem carry_blind (event : Event) : Blind (elsewhere a b) (carry event) := by
  intro x
  have hsubscriber : (x.elsewhere a b).subscriber = x.subscriber := rfl
  simp only [carry, hsubscriber]
  split
  · rfl
  · rfl
  · split
    · exact display_blind a b _ event x
    · rfl

theorem settleLines_elsewhere (s : Ref Sink) (k : LineSink) (t : Tally Buffer) (x : Facility) :
    (x.elsewhere a b).settleLines s k t = (x.settleLines s k t).elsewhere a b := by
  simp only [settleLines]
  split <;> split <;> rfl

theorem writeLine_blind (s : Ref Sink) (k : LineSink) (r : Record) :
    Blind (elsewhere a b) (writeLine s k r) := by
  intro x
  have hregistry : (x.elsewhere a b).registryOf k.registry = x.registryOf k.registry := rfl
  have hmoment : (x.elsewhere a b).moment k.formatter = x.moment k.formatter := rfl
  simp only [writeLine, hregistry, hmoment]
  split
  · rw [settleLines_elsewhere]
  · rfl

theorem runHook_elsewhere (s : Ref Sink) (k : EventSink) (x : Facility) :
    (x.elsewhere a b).runHook s k = (x.runHook s k).elsewhere a b := by
  unfold runHook
  split <;> rfl

theorem conclude_blind (s : Ref Sink) (k : EventSink) (r : Record) :
    Blind (elsewhere a b) (conclude s k r) := by
  have hstop : Blind (elsewhere a b)
      (if k.action = .stop then Act.abort else pure () : Act Facility Unit) :=
    .ite .abort (.pure _)
  exact .ite (.bind (.modify (runHook_elsewhere a b s k)) fun _ => hstop) (.pure _)

theorem pass_blind (s : Ref Sink) (k : EventSink) (r : Record) :
    Blind (elsewhere a b) (pass s k r) :=
  .bind (.inspect fun _ => rfl) fun _ =>
    .ite ((carry_blind a b _).bind fun _ => conclude_blind a b s k r) (conclude_blind a b s k r)

theorem report_blind (s : Ref Sink) (r : Record) : Blind (elsewhere a b) (report s r) := by
  intro x
  have hsinks : (x.elsewhere a b).sinks = x.sinks := rfl
  simp only [report, hsinks]
  split
  · rfl
  · exact writeLine_blind a b s _ r x
  · exact pass_blind a b s _ r x

theorem post_elsewhere (scopes : List (Ref Sink)) (given : Option (Ref Sink)) (r : Record) :
    Blind (elsewhere a b) (post scopes given r) := by
  intro x
  have hdest : (x.elsewhere a b).destination scopes given = x.destination scopes given := rfl
  simp only [post, hdest]
  split
  · exact report_blind a b _ r x
  · exact carry_blind a b _ x

end Blindness

/-- Posting does not look at the stack of scopes. -/
theorem post_blind (e scopes : List (Ref Sink)) (given : Option (Ref Sink)) (r : Record) :
    Blind (inScopes e) (post scopes given r) := post_elsewhere (fun _ => e) id scopes given r

/-- Delivering does not look behind the streams. -/
theorem deliver_blind (t : Ref Writer) (w : Writer) (given : Option (Ref Sink)) (r : Record) :
    Blind (putWriter t w) (deliver given r) := by
  intro x
  rw [deliver_eq_post, deliver_eq_post]
  exact post_elsewhere id (Table.put t w) x.scopes given r x

end Facility

/-! ### Statements -/

namespace Statement

/-- Runs a statement inside scopes that are handed in. -/
def runIn (scopes : List (Ref Sink)) (k : Statement) (site : Site) (category : Option String)
    (message : String) : Act Facility Bool := do
  if ← Act.inspect fun x => k.isEnabled category x then
    Facility.post scopes none ((k.draft site category).append message).record
    pure true
  else pure false

theorem run_eq_runIn (k : Statement) (site : Site) (category : Option String) (message : String)
    (x : Facility) : k.run site category message x = k.runIn x.scopes site category message x := by
  simp only [run, runWith, runIn, Act.bind_run, Act.inspect]
  split
  · simp only [Act.bind_run, Facility.close, Facility.deliver_eq_post]
    rfl
  · rfl

theorem runIn_blind (e scopes : List (Ref Sink)) (k : Statement) (site : Site)
    (category : Option String) (message : String) :
    Blind (Facility.inScopes e) (k.runIn scopes site category message) :=
  .bind (.inspect fun _ => rfl) fun _ =>
    .ite (.bind (Facility.post_blind e scopes none _) fun _ => .pure _) (.pure _)

end Statement

/-- Checks a condition inside scopes that are handed in. -/
def assertionIn (scopes : List (Ref Sink)) (site : Site) (holds : Bool) (condition : String)
    (remark : Option String) : Act Facility Unit := do
  unless holds do
    let said := match remark with
      | some r => ": " ++ r
      | none => ""
    let _ ← Statement.fatal.runIn scopes site none ("assertion failed: " ++ condition ++ said)

theorem assertion_eq_assertionIn (site : Site) (holds : Bool) (condition : String)
    (remark : Option String) (x : Facility) :
    assertion site holds condition remark x =
      assertionIn x.scopes site holds condition remark x := by
  cases holds with
  | true => rfl
  | false =>
    have hrun := Statement.run_eq_runIn .fatal site none ("assertion failed: " ++ condition ++
      match remark with
      | some r => ": " ++ r
      | none => "") x
    exact Act.bind_congr (fun _ => pure ()) hrun

theorem assertionIn_blind (e scopes : List (Ref Sink)) (site : Site) (holds : Bool)
    (condition : String) (remark : Option String) :
    Blind (Facility.inScopes e) (assertionIn scopes site holds condition remark) := by
  unfold assertionIn
  exact .ite (.pure _) (.bind (Statement.runIn_blind e scopes _ _ _ _) fun _ => .pure _)

/-! ### Forwarders -/

/-- What a forwarder finds in a facility, inside scopes that are handed in. -/
def Facility.outletIn (scopes : List (Ref Sink)) : Outlet Facility where
  level f x := (x.registryOf f.registry).level
  report f r := post scopes f.sink r

/-- The facility beside a forwarder, with other scopes open. -/
def besideInScopes {α : Type} (e : List (Ref Sink)) (p : α × Facility) : α × Facility :=
  (p.1, p.2.inScopes e)

namespace Forwarder

theorem emit_eq_emitIn (f : Forwarder) (line : List UInt8) (x : Facility) :
    emit Facility.outlet f line x = emit (Facility.outletIn x.scopes) f line x := by
  simp only [emit, Facility.outlet, Facility.outletIn, Facility.deliver_eq_post]
  rfl

/-- What a forwarder finds inside scopes that are handed in does not hang on the stack of scopes. -/
theorem outletIn_follows (e scopes : List (Ref Sink)) :
    (Facility.outletIn scopes).Follows (Facility.inScopes e) (Facility.outletIn scopes) :=
  ⟨fun _ _ => rfl, fun f r => Facility.post_blind e scopes f.sink r⟩

theorem each_emit_eq_emitIn (f : Forwarder) : ∀ (lines : List (List UInt8)) (x : Facility),
    Act.each (emit Facility.outlet f) lines x =
      Act.each (emit (Facility.outletIn x.scopes) f) lines x
  | [], _ => rfl
  | line :: lines, x => by
    have hkeep := emit_scopes f line x
    rw [Act.each_cons, Act.each_cons, Act.bind_run, Act.bind_run, ← emit_eq_emitIn]
    generalize emit Facility.outlet f line x = r at hkeep ⊢
    rcases r with ⟨_ | _ | _, y⟩
    · rw [← show y.scopes = x.scopes from hkeep]
      exact each_emit_eq_emitIn f lines y
    · rfl
    · rfl

theorem write_eq_writeIn (bs : List UInt8) (f : Forwarder) (x : Facility) :
    write Facility.outlet bs (f, x) = write (Facility.outletIn x.scopes) bs (f, x) := by
  simp only [write, each_emit_eq_emitIn]

theorem flush_eq_flushIn (f : Forwarder) (x : Facility) :
    flush Facility.outlet (f, x) = flush (Facility.outletIn x.scopes) (f, x) := by
  simp only [flush, emit_eq_emitIn]

theorem writeIn_blind (e scopes : List (Ref Sink)) (bs : List UInt8) :
    Blind (besideInScopes e) (write (Facility.outletIn scopes) bs) :=
  write_follows (outletIn_follows e scopes) bs

theorem flushIn_blind (e scopes : List (Ref Sink)) :
    Blind (besideInScopes e) (flush (Facility.outletIn scopes)) :=
  flush_follows (outletIn_follows e scopes)

end Forwarder

end Logbook
