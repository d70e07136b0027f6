/-
# Routine actions

Of the actions that hold no steps, few have to do with what the steps around them set up. Only those
on drafts look at the open drafts, only the making of a sink and the taking of its device change
what names stand for which sinks, and none of them changes which scopes are open. All the others
are routine: they run the same whatever drafts are open.

Key definitions: `Scene.withDrafts`, `Routine`, `Action.namesSinks`, `Action.isOnDraft`,
`DraftAction.change`.
Key theorems: `Action.run_routine`, `draftAction_run`, `Action.run_scopes`.
-/
import Logbook.Proofs.Facility.Scopes
import Logbook.Scenario.Play

namespace Logbook.Scenario

open Act (Blind Keeps)
open Scene (onFacility)

namespace Scene

/-- A scene with other open drafts. -/
def withDrafts (ds : List Draft) (s : Scene) : Scene := { s with drafts := ds }

/-- The scopes that are open in a scene. -/
def scopes (s : Scene) : List (Ref Sink) := s.facility.scopes

end Scene

/-- An action that runs the same whatever drafts are open, and leaves them, the open scopes and the
names of the sinks as they are. -/
structure Routine {α : Type} (x : Act Scene α) : Prop where
  blind : ∀ ds, Blind (Scene.withDrafts ds) x
  scopes : Keeps Scene.scopes x
  names : Keeps Scene.sinks x

namespace Routine

variable {α β : Type}

theorem pure (a : α) : Routine (Pure.pure a : Act Scene α) :=
  ⟨fun _ => .pure a, .pure a, .pure a⟩

theorem modify {f : Scene → Scene} (hd : ∀ ds s, f (s.withDrafts ds) = (f s).withDrafts ds)
    (hs : ∀ s, (f s).scopes = s.scopes) (hn : ∀ s, (f s).sinks = s.sinks) :
    Routine (Act.modify f) :=
  ⟨fun ds => .modify (hd ds), .modify hs, .modify hn⟩

theorem onFacility {act : Act Facility α} (h : Keeps Facility.scopes act) :
    Routine (onFacility act) :=
  ⟨fun _ _ => rfl, fun s => h s.facility, fun _ => rfl⟩

theorem bind {x : Act Scene α} {f : α → Act Scene β} (hx : Routine x) (hf : ∀ a, Routine (f a)) :
    Routine (x >>= f) :=
  ⟨fun ds => (hx.blind ds).bind fun a => (hf a).blind ds, hx.scopes.bind fun a => (hf a).scopes,
    hx.names.bind fun a => (hf a).names⟩

/-- An action may look at the scene first, though not at its drafts. -/
theorem read {f : Scene → Act Scene α} (hd : ∀ ds s, f (s.withDrafts ds) = f s)
    (hf : ∀ s, Routine (f s)) : Routine (Act.read >>= f) :=
  ⟨fun ds => .read (hd ds) fun s => (hf s).blind ds, .bind .read fun s => (hf s).scopes,
    .bind .read fun s => (hf s).names⟩

/-- An action may look at the scene and replace it by what it came to. -/
theorem replace {f : Scene → Scene} {g : Scene → α}
    (hd : ∀ ds s, f (s.withDrafts ds) = (f s).withDrafts ds)
    (hg : ∀ ds s, g (s.withDrafts ds) = g s) (hs : ∀ s, (f s).scopes = s.scopes)
    (hn : ∀ s, (f s).sinks = s.sinks) : Routine fun s => (Outcome.done (g s), f s) :=
  ⟨fun ds s => by simp only [hd ds s, hg ds s], hs, hn⟩

end Routine

/-! ### Clocks and writers -/

theorem clockRef_withDrafts (id : String) (s : Scene) (ds : List Draft) :
    (s.withDrafts ds).clockRef id = ((s.clockRef id).1, (s.clockRef id).2.withDrafts ds) := by
  simp only [Scene.clockRef, Scene.withDrafts]
  split <;> rfl

theorem clockRef_scopes (id : String) (s : Scene) : (s.clockRef id).2.scopes = s.scopes := by
  simp only [Scene.clockRef]
  split <;> rfl

theorem clockRef_sinks (id : String) (s : Scene) : (s.clockRef id).2.sinks = s.sinks := by
  simp only [Scene.clockRef]
  split <;> rfl

theorem giveUpWriter_routine (w : Option Writer) : Routine (giveUpWriter w) := by
  cases w with
  | none => exact .pure _
  | some w => exact .onFacility (Writer.giveUp_scopes w)

theorem takeWriter_routine (p : WriterPlan) : Routine (takeWriter p) := by
  refine ⟨fun ds s => ?_, fun s => ?_, fun s => ?_⟩ <;> cases p <;>
    simp only [takeWriter, Scene.takeWriter, Scene.withDrafts] <;> first | rfl | (split <;> rfl)

theorem saveWriter_routine (id : String) (w : Writer) : Routine (saveWriter id w) :=
  .read (fun _ _ => rfl) fun _ =>
    .bind (.modify (fun _ _ => rfl) (fun _ => rfl) fun _ => rfl) fun _ => giveUpWriter_routine _

/-! ### Named objects -/

theorem withForwarder_routine {α : Type} (id : String) (f : Forwarder)
    {act : Act (Forwarder × Facility) α} (h : Keeps scopesBeside act) :
    Routine (withForwarder id f act) :=
  ⟨fun _ _ => rfl, fun s => h (f, s.facility), fun _ => rfl⟩

theorem withRedirection_routine (id : String) (r : Redirection)
    {act : Act (Redirection × Facility) Unit} (h : Keeps scopesBeside act) :
    Routine (withRedirection id r act) :=
  ⟨fun _ _ => rfl, fun s => h (r, s.facility), fun _ => rfl⟩

theorem withSaved_routine {α : Type} (id : String) (w : Writer)
    {act : Act (Writer × Facility) α} (h : Keeps scopesBeside act) :
    Routine (withSaved id w act) :=
  ⟨fun _ _ => rfl, fun s => h (w, s.facility), fun _ => rfl⟩

theorem registryAction_routine (id : Option String) (a : RegistryAction) : Routine (a.run id) :=
  .read (fun _ _ => rfl) fun _ =>
    .bind (.onFacility (.modify fun x => Facility.updateRegistry_scopes _ _ x)) fun _ =>
      .read (fun _ _ => rfl) fun _ => .pure _

theorem clockAction_routine (id : String) (a : ClockAction) : Routine (a.run id) := by
  have h : Routine fun s : Scene =>
      (Outcome.done (Result.clock
          (((s.clockRef id).2.updateClock (s.clockRef id).1 a.change).facility.clocks.get
            (s.clockRef id).1)),
        (s.clockRef id).2.updateClock (s.clockRef id).1 a.change) := by
    refine .replace (fun ds s => ?_) (fun ds s => ?_) (clockRef_scopes id) (clockRef_sinks id)
    · rw [clockRef_withDrafts]; rfl
    · rw [clockRef_withDrafts]; rfl
  exact h

theorem forwarderAction_routine (id : String) (a : ForwarderAction) : Routine (a.run id) := by
  refine .read (fun _ _ => rfl) fun s => ?_
  split
  · exact .pure _
  · cases a with
    | write bs =>
      exact (withForwarder_routine id _ (Forwarder.write_scopes bs)).bind fun _ => .pure _
    | flush => exact (withForwarder_routine id _ Forwarder.flush_scopes).bind fun _ => .pure _
    | describe => exact .pure _
    | giveUp =>
      exact .bind (.modify (fun _ _ => rfl) (fun _ => rfl) fun _ => rfl) fun _ =>
        (giveUpWriter_routine _).bind fun _ => .pure _

theorem streamAction_routine (id : String) (a : StreamAction) : Routine (a.run id) := by
  refine .read (fun _ _ => rfl) fun s => ?_
  split
  · exact .pure _
  · cases a with
    | write bs =>
      exact .bind (.onFacility (Facility.onStream_scopes _ (Writer.write_scopes bs))) fun _ => .pure _
    | writeAll bs =>
      exact .bind (.onFacility (Facility.onStream_scopes _ (Writer.writeAll_scopes bs))) fun _ =>
        .pure _
    | flush =>
      exact .bind (.onFacility (Facility.onStream_scopes _ Writer.flush_scopes)) fun _ => .pure _
    | describe => exact .pure _
    | replaceWriter p save =>
      refine (takeWriter_routine p).bind fun w =>
        .bind (.onFacility (Facility.replaceWriter_scopes _ w)) fun old => ?_
      cases save with
      | none => exact (giveUpWriter_routine _).bind fun _ => .pure _
      | some id => exact (saveWriter_routine id old).bind fun _ => .pure _

theorem useOwnStream_routine (p : WriterPlan) (bs : List UInt8) : Routine (useOwnStream p bs) := by
  refine (takeWriter_routine p).bind fun w => .read (fun _ _ => rfl) fun s => ?_
  refine .bind ?_ fun _ => .onFacility (.ensure ?_ fun x => Writer.giveUp_scopes _ x)
  · exact .modify (fun _ _ => rfl) (fun _ => rfl) fun _ => rfl
  · exact .bind (Facility.onStream_scopes _ (Writer.write_scopes bs)) fun _ =>
      .bind (Facility.onStream_scopes _ (Writer.writeAll_scopes bs)) fun _ =>
        .bind (Facility.onStream_scopes _ Writer.flush_scopes) fun _ => .pure _

theorem startRedirection_routine (id stream : String) (p : ForwarderPlan) :
    Routine (startRedirection id stream p) := by
  refine .read (fun _ _ => rfl) fun s => ?_
  split
  · exact .pure _
  · refine .bind (.onFacility (Redirection.start_scopes _ _)) fun new => ?_
    refine .bind (.modify (fun _ _ => rfl) (fun _ => rfl) fun _ => rfl) fun _ => ?_
    split
    · exact .bind (.onFacility (Redirection.giveUp_scopes _)) fun _ => .pure _
    · exact .pure _

theorem redirectionAction_routine (id : String) (a : RedirectionAction) : Routine (a.run id) := by
  refine .read (fun _ _ => rfl) fun s => ?_
  split
  · exact .pure _
  · cases a with
    | reset =>
      exact (withRedirection_routine id _ Redirection.reset_scopes).bind fun _ => .pure _
    | state => exact .pure _
    | giveUp =>
      exact .bind (.modify (fun _ _ => rfl) (fun _ => rfl) fun _ => rfl) fun _ =>
        .bind (.onFacility (Redirection.giveUp_scopes _)) fun _ => .pure _

theorem savedAction_routine (id : String) (a : SavedAction) : Routine (a.run id) := by
  refine .read (fun _ _ => rfl) fun s => ?_
  split
  · exact .pure _
  · cases a with
    | write bs => exact (withSaved_routine id _ (Writer.writeAll_scopes bs)).bind fun _ => .pure _
    | flush => exact (withSaved_routine id _ Writer.flush_scopes).bind fun _ => .pure _
    | giveUp =>
      exact .bind (.modify (fun _ _ => rfl) (fun _ => rfl) fun _ => rfl) fun _ =>
        (giveUpWriter_routine _).bind fun _ => .pure _
    | restore stream =>
      dsimp only
      split
      · exact .pure _
      · exact .bind (.modify (fun _ _ => rfl) (fun _ => rfl) fun _ => rfl) fun _ =>
          .bind (.onFacility (Facility.replaceWriter_scopes _ _)) fun _ =>
            (giveUpWriter_routine _).bind fun _ => .pure _

/-- The clock that a set-up asks for, if it asks for one. -/
def setUpClock (clock : Option String) (s : Scene) : Option (Ref Clock) × Scene :=
  match clock with
  | some id => (some (s.clockRef id).1, (s.clockRef id).2)
  | none => (none, s)

/-- What a set-up does once the facility is installed, or could not be. -/
def afterSetUp : Except StartupError Unit → Act Scene Result
  | .error e => pure (.installed (.error e))
  | .ok () => do
    Act.modify fun s => { s with guarded := true }
    let s ← Act.read
    pure (.installed (.ok s.facility.registry.level))

theorem setUp_routine (settings : Settings) (clock : Option String) :
    Routine (setUp settings clock) := by
  have hclock : Routine fun s : Scene =>
      (Outcome.done (setUpClock clock s).1, (setUpClock clock s).2) := by
    cases clock with
    | none => exact .replace (fun _ _ => rfl) (fun _ _ => rfl) (fun _ => rfl) fun _ => rfl
    | some id =>
      refine .replace (fun ds s => ?_) (fun ds s => ?_) (clockRef_scopes id) (clockRef_sinks id)
      · simp only [setUpClock, clockRef_withDrafts]
      · simp only [setUpClock, clockRef_withDrafts]
  have hsplit : setUp settings clock =
      (fun s => (Outcome.done (setUpClock clock s).1, (setUpClock clock s).2) : Act Scene _) >>=
        fun c => onFacility (Facility.install settings c) >>= afterSetUp := rfl
  rw [hsplit]
  refine hclock.bind fun c => ?_
  refine .bind (.onFacility (Facility.install_scopes settings c)) fun r => ?_
  cases r with
  | error e => exact .pure _
  | ok u =>
    exact .bind (.modify (fun _ _ => rfl) (fun _ => rfl) fun _ => rfl) fun _ =>
      .read (fun _ _ => rfl) fun _ => .pure _

theorem releaseGuard_routine : Routine (Act.modify releaseGuard) := by
  refine .modify (fun ds s => ?_) (fun s => ?_) (fun s => ?_)
  · by_cases hg : s.guarded = true <;> simp [releaseGuard, Scene.withDrafts, hg]
  · simp only [releaseGuard]
    split <;> rfl
  · simp only [releaseGuard]
    split <;> rfl

/-! ### All actions -/

/-- Whether an action works on an open draft. -/
def Action.isOnDraft : Action → Bool
  | .onDraft _ _ => true
  | _ => false

/-- Whether an action changes what names stand for which sinks. -/
def Action.namesSinks : Action → Bool
  | .newSink _ _ | .onSink _ .takeDevice => true
  | _ => false

theorem sinkAction_routine (id : String) {a : SinkAction} (ha : a ≠ .takeDevice) :
    Routine (a.run id) := by
  refine .read (fun _ _ => rfl) fun s => ?_
  split
  · exact .pure _
  · split
    case h_6 => exact .bind (.onFacility (.modify fun _ => rfl)) fun _ => .pure _
    case h_7 => exact absurd rfl ha
    all_goals exact .pure _

/-- Actions are routine, except those on drafts and those that name sinks. -/
theorem Action.run_routine {a : Action} (hd : a.isOnDraft = false) (hn : a.namesSinks = false) :
    Routine a.run := by
  cases a with
  | onDraft up a => simp [isOnDraft] at hd
  | statement k category message =>
    exact .read (fun _ _ => rfl) fun s =>
      .bind (.onFacility (Statement.run_scopes k s.site category message)) fun _ => .pure _
  | assertion remark value =>
    refine .read (fun _ _ => rfl) fun s => ?_
    cases remark with
    | none => exact .bind (.onFacility (assertion_scopes _ _ _ _)) fun _ => .pure _
    | some said => exact .bind (.onFacility (assertion_scopes _ _ _ _)) fun _ => .pure _
  | dispatch r => exact .bind (.onFacility (Facility.deliver_scopes none r)) fun _ => .pure _
  | report sink r =>
    refine .read (fun _ _ => rfl) fun s => ?_
    split
    · exact .bind (.onFacility (Facility.report_scopes _ r)) fun _ => .pure _
    · exact .pure _
  | carry r => exact .bind (.onFacility (Facility.carry_scopes _)) fun _ => .pure _
  | setGlobalSink sink =>
    exact .read (fun _ _ => rfl) fun _ =>
      .bind (.onFacility (.modify fun _ => rfl)) fun _ => .pure _
  | newRegistry id l =>
    exact .bind (.modify (fun _ _ => rfl) (fun _ => rfl) fun _ => rfl) fun _ => .pure _
  | onRegistry id a => exact registryAction_routine id a
  | onClock id a => exact clockAction_routine id a
  | newSink id p => simp [namesSinks] at hn
  | onSink id a => exact sinkAction_routine id (by rintro rfl; simp [namesSinks] at hn)
  | newForwarder id p =>
    exact .read (fun _ _ => rfl) fun _ =>
      .bind (.modify (fun _ _ => rfl) (fun _ => rfl) fun _ => rfl) fun _ =>
        (giveUpWriter_routine _).bind fun _ => .pure _
  | onForwarder id a => exact forwarderAction_routine id a
  | newStream id p =>
    exact (takeWriter_routine p).bind fun _ =>
      .bind (.modify (fun _ _ => rfl) (fun _ => rfl) fun _ => rfl) fun _ => .pure _
  | onStream id a => exact streamAction_routine id a
  | onOwnStream p bs => exact useOwnStream_routine p bs
  | redirect id stream p => exact startRedirection_routine id stream p
  | onRedirection id a => exact redirectionAction_routine id a
  | onSaved id a => exact savedAction_routine id a
  | install settings clock => exact setUp_routine settings clock
  | dropGuard =>
    exact .read (fun _ _ => rfl) fun _ => releaseGuard_routine.bind fun _ => .pure _

/-! ### Actions on drafts -/

/-- What an action makes of a draft. -/
def DraftAction.change : DraftAction → Draft → Draft
  | .append p, d => d.append p.said
  | .setCategory category, d => d.setCategory category
  | .state, d | .describe, d => d

/-- An action on a draft returns, and changes that draft only. -/
theorem draftAction_run (up : Nat) (a : DraftAction) (s : Scene) :
    Act.map (fun _ => ()) (a.run up) s = (.done (), changeDraft up a.change s) := by
  have hsame : changeDraft up (fun d => d) s = s := by
    simp only [changeDraft]
    rw [show s.drafts.modify up (fun d => d) = s.drafts from List.modify_id up s.drafts]
  -- what is answered depends on whether the draft is there, the scene does not
  cases a <;>
    simp only [DraftAction.run, Act.map, Act.bind_run, Act.modify, Act.read]
  case append p => cases (changeDraft up (·.append p.said) s).drafts[up]? <;> rfl
  case setCategory c => cases (changeDraft up (·.setCategory c) s).drafts[up]? <;> rfl
  case state => cases s.drafts[up]? <;> exact congrArg _ hsame.symm
  case describe => cases s.drafts[up]? <;> exact congrArg _ hsame.symm

/-! ### Scopes -/

theorem draftAction_scopes (up : Nat) (a : DraftAction) : Keeps Scene.scopes (a.run up) := by
  intro s
  have hrun : (a.run up s).2 = changeDraft up a.change s := congrArg Prod.snd (draftAction_run up a s)
  rw [hrun]
  rfl

theorem makeSink_scopes (p : SinkPlan) (s : Scene) : (s.makeSink p).2.scopes = s.scopes := by
  have htime (p : FormatterPlan) (s : Scene) : (s.makeTimeSource p).2.scopes = s.scopes := by
    unfold Scene.makeTimeSource
    split
    · exact clockRef_scopes _ s
    · rfl
    · rfl
    · rfl
  have hregistry (p : FormatterPlan) (s : Scene) : (s.makeTimeRegistry p).2.scopes = s.scopes := by
    unfold Scene.makeTimeRegistry
    split <;> rfl
  cases p with
  | memory => rfl
  | lines formatter registry device => exact (hregistry _ _).trans (htime _ _)
  | events registry beginning hook action => rfl

/-- No action changes which scopes are open. -/
theorem Action.run_scopes (a : Action) : Keeps Scene.scopes a.run := by
  by_cases hd : a.isOnDraft = true
  · cases a <;> simp only [isOnDraft, Bool.false_eq_true] at hd
    exact draftAction_scopes _ _
  by_cases hn : a.namesSinks = true
  · cases a <;> simp only [namesSinks, Bool.false_eq_true] at hn
    case newSink id p => exact .bind (.modify fun s => makeSink_scopes p s) fun _ => .pure _
    case onSink id a =>
      cases a <;> simp only [Bool.false_eq_true] at hn
      refine .bind .read fun s => ?_
      split
      · exact .pure _
      · split <;> first | exact .pure _ | exact .bind (.modify fun _ => rfl) fun _ => .pure _
  exact (run_routine (by simpa using hd) (by simpa using hn)).scopes

end Logbook.Scenario
