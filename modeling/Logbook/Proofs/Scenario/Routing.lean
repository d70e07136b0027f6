/-
# Scopes are well bracketed

The sink of a scope is put on a stack when the scope is entered and taken off when it ends, by a
clean-up that also runs while a message is on its way. `enactAllIn` tells the same steps without a
stack: the scopes around a step are handed down to it, a scope hands one more to the steps inside
it, and every record is posted by the scopes around the step that makes it. `playSteps_route` says
that both do the same, whatever the steps hold and whatever the sinks do with their records, and
that the stack is afterwards what it was, unless the process has been stopped.

Key definitions: `Action.enactIn`, `Step.enactIn`, `enactAllIn`, `Lexical`.
Key theorems: `Step.enact_lexical`, `playSteps_route`.
-/
import Logbook.Proofs.Facility.Routing
import Logbook.Proofs.Scenario.Enact
import Logbook.Proofs.Scenario.Routine

namespace Logbook.Scenario

open Act (Blind Keeps)
open Scene (onFacility)

/-- A scene in which other scopes are open. -/
def Scene.inScopes (scopes : List (Ref Sink)) (s : Scene) : Scene :=
  { s with facility := s.facility.inScopes scopes }

/-- Runs an action while just the scopes are open that are handed in. -/
def inside {α : Type} (scopes : List (Ref Sink)) (x : Act Scene α) : Act Scene α := fun s =>
  let r := x (s.inScopes scopes)
  (r.1, r.2.inScopes s.scopes)

/-- Cuts what a forwarder that is given up has pending. -/
def giveUpIn (scopes : List (Ref Sink)) (f : Forwarder) : Act Facility Unit := fun x =>
  let r := Forwarder.flush (Facility.outletIn scopes) (f, x)
  (r.1, r.2.2)

/-- Works on a forwarder inside scopes that are handed in. -/
def ForwarderAction.enactIn (scopes : List (Ref Sink)) (id : String) (a : ForwarderAction) :
    Act Scene Unit := do
  let s ← Act.read
  match s.forwarders.lookup id with
  | none => pure ()
  | some f =>
    match a with
    | .write bs =>
      Act.map (fun _ => ()) (withForwarder id f (Forwarder.write (Facility.outletIn scopes) bs))
    | .flush =>
      Act.map (fun _ => ()) (withForwarder id f (Forwarder.flush (Facility.outletIn scopes)))
    | .describe => pure ()
    | .giveUp =>
      Act.modify fun s => { s with forwarders := s.forwarders.forget id }
      onFacility (giveUpIn scopes f)

/-- Runs an action inside scopes that are handed in. Whatever makes records by itself posts them;
other actions are run while just these scopes are open. -/
def Action.enactIn (scopes : List (Ref Sink)) : Action → Act Scene Unit
  | .statement k category message => do
    let s ← Act.read
    Act.map (fun _ => ()) (onFacility (k.runIn scopes s.site category message))
  | .assertion none value => do
    let s ← Act.read
    onFacility (assertionIn scopes s.site (value = 3) "value == 3" none)
  | .assertion (some said) value => do
    let s ← Act.read
    onFacility (assertionIn scopes s.site (5 < value) "value > 5"
      (some (said ++ " was " ++ toString value)))
  | .dispatch r => onFacility (Facility.post scopes none r)
  | .report sink r => do
    let s ← Act.read
    match s.sinks.lookup sink with
    | some k => onFacility (Facility.post scopes (some k) r)
    | none => pure ()
  | .newForwarder id p => do
    let s ← Act.read
    Act.modify fun s => { s with forwarders := s.forwarders.bind id (s.makeForwarder p) }
    match s.forwarders.lookup id with
    | some f => onFacility (giveUpIn scopes f)
    | none => pure ()
  | .onForwarder id a => a.enactIn scopes id
  | a => inside scopes (Act.map (fun _ => ()) a.run)

/-- Closes the innermost draft inside scopes that are handed in. -/
def closeDraftIn (scopes : List (Ref Sink)) : Act Scene Unit := do
  let s ← Act.read
  match s.drafts with
  | [] => pure ()
  | d :: rest =>
    Act.modify fun s => { s with drafts := rest }
    onFacility (Facility.post scopes d.sink d.record)

/-- The scopes inside a scope that has a sink, or that has none and is no scope at all. -/
def inner (k : Option (Ref Sink)) (scopes : List (Ref Sink)) : List (Ref Sink) :=
  match k with
  | none => scopes
  | some k => k :: scopes

mutual

/-- Runs a step inside scopes that are handed in. -/
def Step.enactIn (scopes : List (Ref Sink)) : Step → Act Scene Unit
  | .act a => a.enactIn scopes
  | .within sink steps => do
    let s ← Act.read
    enactAllIn (inner (s.sinks.lookup sink) scopes) steps
  | .draft severity v site sink steps => do
    Act.modify (Scene.openDraft severity v site sink)
    Act.ensure (enactAllIn scopes steps) (closeDraftIn scopes)
  | .attempt steps => Act.map (fun _ => ()) (enactAllIn scopes steps).caught
  | .fail message => Act.raise message

/-- Runs steps inside scopes that are handed in, up to the first that raises a message. -/
def enactAllIn (scopes : List (Ref Sink)) : List Step → Act Scene Unit
  | [] => pure ()
  | step :: steps => do
    step.enactIn scopes
    enactAllIn scopes steps

end

/-- An action does what another one does that is handed the open scopes and does not look at the
stack, and unless it stops the process it leaves the stack as it was. -/
structure Lexical {α : Type} (x : Act Scene α) (y : List (Ref Sink) → Act Scene α) : Prop where
  same : ∀ s e, y s.scopes (s.inScopes e) = ((x s).1, (x s).2.inScopes e)
  restored : ∀ s, (x s).1 = .aborted ∨ (x s).2.scopes = s.scopes

namespace Lexical

variable {α β : Type} {x : Act Scene α} {y : List (Ref Sink) → Act Scene α}

theorem of_run (h : Lexical x y) {s t : Scene} {o : Outcome α} (hx : x s = (o, t))
    (e : List (Ref Sink)) : y s.scopes (s.inScopes e) = (o, t.inScopes e) := by
  rw [h.same, hx]

theorem scopes_of_run (h : Lexical x y) {s t : Scene} {o : Outcome α} (hx : x s = (o, t))
    (ho : o ≠ .aborted) : t.scopes = s.scopes := by
  have hr := h.restored s
  rw [hx] at hr
  exact hr.resolve_left ho

theorem of_keeps (hx : Keeps Scene.scopes x) (hy : ∀ e scopes, Blind (Scene.inScopes e) (y scopes))
    (h : ∀ s, x s = y s.scopes s) : Lexical x y :=
  ⟨fun s e => by rw [hy e s.scopes s, h s], fun s => .inr (hx s)⟩

/-- Any action that keeps the open scopes can be run inside scopes that are handed in. -/
theorem inside (hx : Keeps Scene.scopes x) : Lexical x fun scopes => Scenario.inside scopes x := by
  refine .of_keeps hx (fun _ _ _ => rfl) fun s => ?_
  have hs : (x s).2.inScopes s.scopes = (x s).2 := by
    rw [← hx s]
    rfl
  exact Prod.ext rfl hs.symm

theorem pure (a : α) : Lexical (Pure.pure a) fun _ => Pure.pure a :=
  ⟨fun _ _ => rfl, fun _ => .inr rfl⟩

theorem raise (m : String) : Lexical (Act.raise m : Act Scene α) fun _ => Act.raise m :=
  ⟨fun _ _ => rfl, fun _ => .inr rfl⟩

theorem modify {f : Scene → Scene} (h : ∀ s e, f (s.inScopes e) = (f s).inScopes e)
    (hs : ∀ s, (f s).scopes = s.scopes) : Lexical (Act.modify f) fun _ => Act.modify f :=
  ⟨fun s e => congrArg (Prod.mk (Outcome.done ())) (h s e), fun s => .inr (hs s)⟩

theorem map (h : Lexical x y) (f : α → β) :
    Lexical (Act.map f x) fun scopes => Act.map f (y scopes) := by
  refine ⟨fun s e => by simp only [Act.map, h.same s e], fun s => ?_⟩
  exact (h.restored s).imp (fun ha => by simp only [Act.map, ha]; rfl) id

theorem bind {f : α → Act Scene β} {g : List (Ref Sink) → α → Act Scene β} (h : Lexical x y)
    (hf : ∀ a, Lexical (f a) fun scopes => g scopes a) :
    Lexical (x >>= f) fun scopes => y scopes >>= g scopes := by
  refine ⟨fun s e => ?_, fun s => ?_⟩
  · rcases hx : x s with ⟨a | m | _, t⟩
    · rw [Act.bind_of_done _ hx, Act.bind_of_done _ (h.of_run hx e),
        ← h.scopes_of_run hx (by simp)]
      exact (hf a).same t e
    · rw [Act.bind_of_raised _ hx, Act.bind_of_raised _ (h.of_run hx e)]
    · rw [Act.bind_of_aborted _ hx, Act.bind_of_aborted _ (h.of_run hx e)]
  · rcases hx : x s with ⟨a | m | _, t⟩
    · rw [Act.bind_of_done _ hx, ← h.scopes_of_run hx (by simp)]
      exact (hf a).restored t
    · rw [Act.bind_of_raised _ hx]
      exact .inr (h.scopes_of_run hx (by simp))
    · rw [Act.bind_of_aborted _ hx]
      exact .inl rfl

theorem read {f : Scene → Act Scene α} {g : List (Ref Sink) → Scene → Act Scene α}
    (hg : ∀ scopes s e, g scopes (s.inScopes e) = g scopes s)
    (hf : ∀ s, Lexical (f s) fun scopes => g scopes s) :
    Lexical (Act.read >>= f) fun scopes => Act.read >>= g scopes := by
  refine ⟨fun s e => ?_, fun s => (hf s).restored s⟩
  show g s.scopes (s.inScopes e) (s.inScopes e) = _
  rw [hg]
  exact (hf s).same s e

theorem caught {x : Act Scene Unit} {y : List (Ref Sink) → Act Scene Unit} (h : Lexical x y) :
    Lexical x.caught fun scopes => (y scopes).caught := by
  refine ⟨fun s e => ?_, fun s => ?_⟩
  · rcases hx : x s with ⟨_ | _ | _, t⟩ <;> simp only [Act.caught, hx, h.of_run hx e]
  · rcases hx : x s with ⟨_ | _ | _, t⟩ <;> simp only [Act.caught, hx]
    · exact .inr (h.scopes_of_run hx (by simp))
    · exact .inr (h.scopes_of_run hx (by simp))
    · exact .inl trivial

/-- A clean-up runs with the stack that its action has left as it found it. -/
theorem ensure {c : Act Scene Unit} {d : List (Ref Sink) → Act Scene Unit} (h : Lexical x y)
    (hc : Lexical c d) :
    Lexical (Act.ensure x c) fun scopes => Act.ensure (y scopes) (d scopes) := by
  refine ⟨fun s e => ?_, fun s => ?_⟩
  · rcases hx : x s with ⟨a | m | _, t⟩ <;> simp only [Act.ensure_run, hx, h.of_run hx e]
    · rw [← h.scopes_of_run hx (by simp), hc.same t e]
    · rw [← h.scopes_of_run hx (by simp), hc.same t e]
  · rcases hx : x s with ⟨a | m | _, t⟩ <;> simp only [Act.ensure_run, hx]
    · rw [← h.scopes_of_run hx (by simp)]
      exact (hc.restored t).imp (fun ha => by rw [ha]; rfl) id
    · rw [← h.scopes_of_run hx (by simp)]
      exact (hc.restored t).imp (fun ha => by rw [ha]; rfl) id
    · exact .inl trivial

/-- A scope is one more for what is inside it: its sink is on top of the stack while the body runs,
and the stack is the old one when the body has ended, be it by a message. -/
theorem within (h : Lexical x y) (k : Option (Ref Sink)) :
    Lexical (within k x) fun scopes => y (inner k scopes) := by
  cases k with
  | none => exact h
  | some k =>
    have hrun (s : Scene) : Scenario.within (some k) x s =
        Act.ensure x (onFacility (Act.modify Facility.leaveScope)) (s.inScopes (k :: s.scopes)) := rfl
    have hleave {s t : Scene} (ht : t.scopes = (s.inScopes (k :: s.scopes)).scopes) :
        t.facility.leaveScope.scopes = s.scopes := congrArg (List.drop 1) ht
    refine ⟨fun s e => ?_, fun s => ?_⟩
    · rw [hrun]
      rcases hx : x (s.inScopes (k :: s.scopes)) with ⟨a | m | _, t⟩ <;>
        simp only [Act.ensure_run, hx] <;> exact h.of_run hx e
    · rw [hrun]
      rcases hx : x (s.inScopes (k :: s.scopes)) with ⟨a | m | _, t⟩ <;>
        simp only [Act.ensure_run, hx]
      · exact .inr (hleave (h.scopes_of_run hx (by simp)))
      · exact .inr (hleave (h.scopes_of_run hx (by simp)))
      · exact .inl trivial

end Lexical

/-! ### Actions -/

theorem onFacility_blind {α : Type} {e : List (Ref Sink)} {act : Act Facility α}
    (h : Blind (Facility.inScopes e) act) : Blind (Scene.inScopes e) (onFacility act) := by
  intro s
  have hs := h s.facility
  simp only [Scene.onFacility, Act.focus]
  rw [show (s.inScopes e).facility = s.facility.inScopes e from rfl, hs]
  rfl

theorem onFacility_congr {α : Type} {act act' : Act Facility α} {s : Scene}
    (h : act s.facility = act' s.facility) : onFacility act s = onFacility act' s := by
  simp only [Scene.onFacility, Act.focus, h]

/-- What is run on the facility is lexical if it can be told without looking at the stack. -/
theorem Lexical.onFacility {α : Type} {act : Act Facility α}
    {actIn : List (Ref Sink) → Act Facility α} (hk : Keeps Facility.scopes act)
    (hb : ∀ e scopes, Blind (Facility.inScopes e) (actIn scopes))
    (h : ∀ x, act x = actIn x.scopes x) :
    Lexical (onFacility act) fun scopes => onFacility (actIn scopes) :=
  .of_keeps (fun s => hk s.facility) (fun e scopes => onFacility_blind (hb e scopes))
    fun s => onFacility_congr (h s.facility)

theorem withForwarder_lexical {α : Type} (id : String) (f : Forwarder)
    {act : Act (Forwarder × Facility) α} {actIn : List (Ref Sink) → Act (Forwarder × Facility) α}
    (hk : Keeps scopesBeside act) (hb : ∀ e scopes, Blind (besideInScopes e) (actIn scopes))
    (h : ∀ x, act (f, x) = actIn x.scopes (f, x)) :
    Lexical (withForwarder id f act) fun scopes => withForwarder id f (actIn scopes) := by
  refine .of_keeps (fun s => hk (f, s.facility)) (fun e scopes s => ?_) fun s => ?_
  · have hs := hb e scopes (f, s.facility)
    simp only [withForwarder]
    rw [show (f, (s.inScopes e).facility) = besideInScopes e (f, s.facility) from rfl, hs]
    rfl
  · simp only [withForwarder, h s.facility]
    rfl

theorem giveUp_lexical (f : Forwarder) :
    Lexical (onFacility (Writer.giveUp (.forwarder f))) fun scopes =>
      onFacility (giveUpIn scopes f) := by
  refine .onFacility (Writer.giveUp_scopes _) (fun e scopes x => ?_) fun x => ?_
  · have hx := Forwarder.flushIn_blind e scopes (f, x)
    simp only [giveUpIn]
    rw [show (f, x.inScopes e) = besideInScopes e (f, x) from rfl, hx]
    rfl
  · simp only [Writer.giveUp, giveUpIn, Forwarder.flush_eq_flushIn]

theorem forwarderAction_lexical (id : String) (a : ForwarderAction) :
    Lexical (Act.map (fun _ => ()) (a.run id)) fun scopes => a.enactIn scopes id := by
  rw [ForwarderAction.run, Act.map_bind]
  refine .read (fun _ _ _ => rfl) fun s => ?_
  cases s.forwarders.lookup id with
  | none => exact .pure _
  | some f =>
    cases a with
    | write bs =>
      simp only [Act.bind_pure_eq_map, Act.map_map]
      exact (withForwarder_lexical id f (Forwarder.write_scopes bs)
        (fun e scopes => Forwarder.writeIn_blind e scopes bs)
        fun x => Forwarder.write_eq_writeIn bs f x).map _
    | flush =>
      simp only [Act.bind_pure_eq_map, Act.map_map]
      exact (withForwarder_lexical id f Forwarder.flush_scopes Forwarder.flushIn_blind
        fun x => Forwarder.flush_eq_flushIn f x).map _
    | describe => exact .pure _
    | giveUp =>
      simp only [Act.bind_pure_eq_map, Act.map_map, Act.map_bind, Act.map_unit]
      exact .bind (.modify (fun _ _ => rfl) fun _ => rfl) fun _ => giveUp_lexical f

theorem deliver_lexical (given : Option (Ref Sink)) (r : Record) :
    Lexical (onFacility (Facility.deliver given r)) fun scopes =>
      onFacility (Facility.post scopes given r) :=
  .onFacility (Facility.deliver_scopes given r)
    (fun e scopes => Facility.post_blind e scopes given r) (Facility.deliver_eq_post given r)

theorem assertion_lexical (site : Site) (holds : Bool) (condition : String)
    (remark : Option String) :
    Lexical (onFacility (assertion site holds condition remark)) fun scopes =>
      onFacility (assertionIn scopes site holds condition remark) :=
  .onFacility (assertion_scopes site holds condition remark)
    (fun e scopes => assertionIn_blind e scopes site holds condition remark)
    (assertion_eq_assertionIn site holds condition remark)

/-- What an action reports is posted by the scopes around it. -/
theorem action_lexical (a : Action) :
    Lexical (Act.map (fun _ => ()) a.run) fun scopes => a.enactIn scopes := by
  have hrest (a : Action) : Lexical (Act.map (fun _ => ()) a.run) fun scopes =>
      inside scopes (Act.map (fun _ => ()) a.run) := .inside fun s => a.run_scopes s
  cases a with
  | statement k category message =>
    simp only [Action.run, Act.map_bind, Act.bind_pure_eq_map, Act.map_map]
    refine .read (fun _ _ _ => rfl) fun s => .map (.onFacility (Statement.run_scopes _ _ _ _)
      (fun e scopes => Statement.runIn_blind e scopes _ _ _ _) fun x => ?_) _
    exact Statement.run_eq_runIn k s.site category message x
  | assertion remark value =>
    rw [Action.run, Act.map_bind]
    cases remark with
    | none =>
      refine .read (fun _ _ _ => rfl) fun s => ?_
      simp only [Act.bind_pure_eq_map, Act.map_map, Act.map_unit]
      exact assertion_lexical s.site _ _ _
    | some said =>
      refine .read (fun _ _ _ => rfl) fun s => ?_
      simp only [Act.bind_pure_eq_map, Act.map_map, Act.map_unit]
      exact assertion_lexical s.site _ _ _
  | dispatch r =>
    simp only [Action.run, Act.bind_pure_eq_map, Act.map_map, Act.map_unit]
    exact deliver_lexical none r
  | report sink r =>
    rw [Action.run, Act.map_bind]
    refine .read (fun _ _ _ => rfl) fun s => ?_
    cases s.sinks.lookup sink with
    | none => exact .pure _
    | some k =>
      simp only [Act.bind_pure_eq_map, Act.map_map, Act.map_unit]
      exact deliver_lexical (some k) r
  | newForwarder id p =>
    rw [Action.run, Act.map_bind]
    refine .read (fun _ _ _ => rfl) fun s => ?_
    simp only [Act.bind_pure_eq_map, Act.map_map, Act.map_bind, Act.map_unit]
    refine .bind (.modify (fun _ _ => rfl) fun _ => rfl) fun _ => ?_
    cases s.forwarders.lookup id with
    | none => exact .pure _
    | some f => exact giveUp_lexical f
  | onForwarder id a => exact forwarderAction_lexical id a
  | _ => exact hrest _

/-! ### Steps -/

theorem closeDraft_lexical : Lexical closeDraft closeDraftIn := by
  refine .read (fun _ _ _ => rfl) fun s => ?_
  cases s.drafts with
  | nil => exact .pure _
  | cons d rest =>
    exact .bind (.modify (fun _ _ => rfl) fun _ => rfl) fun _ => deliver_lexical d.sink d.record

mutual

/-- A step can be told by the scopes around it, and leaves the stack of scopes as it was. -/
theorem Step.enact_lexical : ∀ step : Step, Lexical step.enact fun scopes => step.enactIn scopes
  | .act a => by
    simp only [Step.enact, Step.enactIn]
    exact action_lexical a
  | .within sink steps => by
    simp only [Step.enact, Step.enactIn]
    exact .read (fun _ _ _ => rfl) fun s => (enactAll_lexical steps).within (s.sinks.lookup sink)
  | .draft severity v site sink steps => by
    simp only [Step.enact, Step.enactIn]
    exact .bind (.modify (fun _ _ => rfl) fun _ => rfl) fun _ =>
      (enactAll_lexical steps).ensure closeDraft_lexical
  | .attempt steps => by
    simp only [Step.enact, Step.enactIn]
    exact (enactAll_lexical steps).caught.map _
  | .fail message => by
    simp only [Step.enact, Step.enactIn]
    exact .raise message

theorem enactAll_lexical : ∀ steps : List Step,
    Lexical (enactAll steps) fun scopes => enactAllIn scopes steps
  | [] => by
    simp only [enactAll, enactAllIn]
    exact .pure _
  | step :: steps => by
    simp only [enactAll, enactAllIn]
    exact step.enact_lexical.bind fun _ => enactAll_lexical steps

end

/-- A draft that a message cuts short inside a scope is posted by that scope, which is still open. -/
theorem within_draft_raised {sink : String} {k : Ref Sink} {severity : Severity} {v : Verbosity}
    {site : Site} {given : Option String} {body : List Step} {m : String} {s t : Scene} {d : Draft}
    {rest : List Draft} (hk : s.sinks.lookup sink = some k)
    (hbody : enactAll body ((s.openDraft severity v site given).inScopes (k :: s.scopes)) =
      (.raised m, t))
    (hd : t.drafts = d :: rest) :
    ((Step.within sink [.draft severity v site given body]).enact s).2.inScopes [] =
      Scene.inScopes []
        { t with
          drafts := rest
          facility := (Facility.post (k :: s.scopes) d.sink d.record t.facility).2 } := by
  have hlex := (Step.within sink [.draft severity v site given body]).enact_lexical.same s []
  have hbodyIn : enactAllIn (k :: s.scopes) body
      ((s.openDraft severity v site given).inScopes []) = (.raised m, t.inScopes []) :=
    (enactAll_lexical body).of_run hbody []
  have hclose : closeDraftIn (k :: s.scopes) (t.inScopes []) =
      onFacility (Facility.post (k :: s.scopes) d.sink d.record)
        (Scene.inScopes [] { t with drafts := rest }) := by
    rw [closeDraftIn, Act.read_bind, show (t.inScopes []).drafts = d :: rest from hd]
    rfl
  have hblind := onFacility_blind (Facility.post_blind [] (k :: s.scopes) d.sink d.record)
    { t with drafts := rest }
  have hstep : ((Step.within sink [.draft severity v site given body]).enactIn s.scopes
      (s.inScopes [])).2 = (closeDraftIn (k :: s.scopes) (t.inScopes [])).2 := by
    rw [Step.enactIn, Act.read_bind, show (s.inScopes []).sinks.lookup sink = some k from hk, inner,
      enactAllIn, enactAllIn, Step.enactIn, Act.bind_run, Act.modify_bind,
      show (s.inScopes []).openDraft severity v site given =
        (s.openDraft severity v site given).inScopes [] from rfl, Act.ensure_run, hbodyIn]
    dsimp only
    rcases closeDraftIn (k :: s.scopes) (t.inScopes []) with ⟨_ | _ | _, u⟩ <;> rfl
  rw [hlex, hclose, hblind] at hstep
  exact hstep

/-! ### Whole runs -/

/-- **Records find the scope that they are made in.** Playing steps comes to the same as running them
with the scopes handed down from each step to the steps inside it, whatever the stack holds
meanwhile: the same ending and the same scene, for any steps, and also when sinks raise messages
while they report. So every record is reported once: to its own sink if it has one, else to that of
the innermost scope around the step that makes it, else to the process-wide one of that moment, and
as one event if there is none. Every step leaves the stack as it found it, unless the process is
stopped; and the record of a draft that a message cuts short inside a scope is posted by that scope,
not by the one outside. -/
theorem playSteps_route (mark : Nat) (steps : List Step) (s : Scene) :
    (∀ e, ((playSteps mark steps s).1.map Played.raised, (playSteps mark steps s).2.inScopes e) =
        (enactAllIn s.scopes steps).caught (s.inScopes e)) ∧
      (∀ step, (playStep mark step s).1 = .aborted ∨ (playStep mark step s).2.scopes = s.scopes) ∧
      ∀ sink k severity v site given body p m t d rest, s.sinks.lookup sink = some k →
        playSteps mark body ((s.openDraft severity v site given).inScopes (k :: s.scopes)) =
          (.done p, t) →
        p.raised = some m → t.drafts = d :: rest →
        (playStep mark (.within sink [.draft severity v site given body]) s).2.inScopes [] =
          Scene.inScopes []
            { t with
              drafts := rest
              facility := (Facility.post (k :: s.scopes) d.sink d.record t.facility).2 } := by
  have hplay (step : Step) := congrFun (playStep_eq_enact mark step) s
  refine ⟨fun e => ?_, fun step => ?_, ?_⟩
  · have hrun := congrFun (playSteps_eq_enactAll mark steps) s
    rw [(enactAll_lexical steps).caught.same s e, ← hrun]
    rfl
  · have hr := step.enact_lexical.restored s
    rw [← hplay step] at hr
    refine hr.imp (fun ha => ?_) id
    simp only [Act.map] at ha
    generalize (playStep mark step s).1 = o at ha ⊢
    cases o <;> simp only [Outcome.map, reduceCtorEq] at ha ⊢
  · intro sink k severity v site given body p m t d rest hk hp hm hd
    have hclosed := within_draft_raised hk (enactAll_of_playSteps hp hm) hd
    rw [← hplay] at hclosed
    exact hclosed

/-- A draft in a scope that a message ends: its record goes to the sink of the scope, and none goes
to the process-wide one. -/
theorem playSteps_route_out_of_a_scope :
    let site : Site := ⟨"model", 1⟩
    let x : Facility := { Facility.start .recorder ⟨[]⟩ "" none with
      sinks := ⟨#[.memory #[], .memory #[]]⟩
      globalSink := some ⟨0⟩ }
    let s : Scene := { Scene.ofFacility x site with sinks := [("m", ⟨1⟩)] }
    let body : List Step := [.act (.onDraft 0 (.append (.text "a"))), .fail "stop"]
    let d : Draft := (Draft.start .error .medium site none).append "a"
    s.sinks.lookup "m" = some ⟨1⟩ ∧
      ∃ p t, playSteps 0 body ((s.openDraft .error .medium site none).inScopes [⟨1⟩]) =
          (.done p, t) ∧ p.raised = some "stop" ∧ t.drafts = [d] ∧
        let after := (playStep 0 (.within "m" [.draft .error .medium site none body]) s).2
        after.facility.sinks.get ⟨1⟩ = .memory #[d.record] ∧
          after.facility.sinks.get ⟨0⟩ = .memory #[] := by
  intro site x s body d
  have hpost := (playSteps_route 0 [] s).2.2 "m" ⟨1⟩ .error .medium site none body _ "stop" _ d []
    rfl rfl rfl rfl
  refine ⟨rfl, _, _, rfl, rfl, rfl, ?_, ?_⟩
  · exact (congrArg (fun s => s.facility.sinks.get ⟨1⟩) hpost).trans rfl
  · exact (congrArg (fun s => s.facility.sinks.get ⟨0⟩) hpost).trans rfl

end Logbook.Scenario
