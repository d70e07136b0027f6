/-
# A draft becomes one record, however its scope ends

Steps open drafts inside drafts, write to any of them, raise messages and handle them.
`playSteps_close_drafts` says that this does to the scene what its course does: every draft that is
opened is handed over as one record, at the end of its scope and not before, and whatever else is
run is run in between. The course says which text and which category the record has, and that inner
drafts are closed before outer ones. A message that is raised cuts a draft short and closes it all
the same; the drafts that were open around the handler stay open, with all that was written to them.

Sinks have to return from the records that they are handed, and the steps may not give names to
sinks, so that a name stands for the same sink throughout.

Key definitions: `Happening.perform`, `written`, `courseIn`.
Key theorems: `enactAll_eq_course`, `playSteps_close_drafts`.
-/
import Logbook.Proofs.Scenario.Course
import Logbook.Proofs.Scenario.Enact
import Logbook.Proofs.Scenario.Routine

namespace Logbook.Scenario

open Scene (onFacility)

/-- What a happening does to a scene, apart from its drafts: a draft that is closed is handed over
as a record, and nothing else is done for a draft. -/
def Happening.perform : Happening → Act Scene Unit
  | .opened _ _ _ _ _ | .appended _ _ | .categorised _ _ => pure ()
  | .closed _ k r => onFacility (Facility.deliver k r)
  | .entered k => onFacility (Act.modify (Facility.enterScope k))
  | .left => onFacility (Act.modify Facility.leaveScope)
  | .ran a => Act.map (fun _ => ()) a.run

/-- A draft after what was written to it. -/
def written (hs : List Happening) (i : Nat) (d : Draft) : Draft :=
  { d with
    message := d.message ++ String.join (texts i hs)
    category := (categories i hs).getLast?.getD d.category }

/-- Drafts after what was written to them. -/
def writtenAll (hs : List Happening) (drafts : List Nat) (ds : List Draft) : List Draft :=
  List.zipWith (written hs) drafts ds

mutual

/-- Whether a step gives a name to a sink, or takes one away. -/
def Step.namesSinks : Step → Bool
  | .act a => a.namesSinks
  | .within _ steps | .draft _ _ _ _ steps | .attempt steps => anyNamesSinks steps
  | .fail _ => false

/-- Whether any of some steps gives a name to a sink, or takes one away. -/
def anyNamesSinks : List Step → Bool
  | [] => false
  | step :: steps => step.namesSinks || anyNamesSinks steps

end

/-! ### Writing to drafts -/

theorem written_append (hs ks : List Happening) (i : Nat) (d : Draft) :
    written (hs ++ ks) i d = written ks i (written hs i d) := by
  simp only [written, texts_append, categories_append, String.join_append, String.append_assoc,
    List.getLast?_append]
  cases (categories i ks).getLast? <;> rfl

theorem written_of_untouched {hs : List Happening} {i : Nat} (h : ∀ a ∈ hs, a.draft? ≠ some i)
    (d : Draft) : written hs i d = d := by
  simp [written, texts_eq_nil h, categories_eq_nil h]

theorem writtenAll_append (hs ks : List Happening) :
    ∀ (drafts : List Nat) (ds : List Draft),
      writtenAll (hs ++ ks) drafts ds = writtenAll ks drafts (writtenAll hs drafts ds)
  | [], _ => rfl
  | _ :: _, [] => rfl
  | i :: drafts, d :: ds => by
    simp only [writtenAll, List.zipWith_cons_cons, written_append]
    exact congrArg _ (writtenAll_append hs ks drafts ds)

theorem writtenAll_of_untouched {hs : List Happening} :
    ∀ {drafts : List Nat} {ds : List Draft}, drafts.length = ds.length →
      (∀ i ∈ drafts, ∀ a ∈ hs, a.draft? ≠ some i) → writtenAll hs drafts ds = ds
  | [], [], _, _ => rfl
  | i :: drafts, d :: ds, hlen, h => by
    simp only [writtenAll, List.zipWith_cons_cons, List.cons.injEq]
    exact ⟨written_of_untouched (h i List.mem_cons_self) d,
      writtenAll_of_untouched (by simpa using hlen) fun j hj => h j (List.mem_cons_of_mem _ hj)⟩

theorem length_writtenAll {hs : List Happening} {drafts : List Nat} {ds : List Draft}
    (h : drafts.length = ds.length) : drafts.length = (writtenAll hs drafts ds).length := by
  simp [writtenAll, h]

/-- Writing to one draft leaves the others as they are. -/
theorem writtenAll_one {hs : List Happening} {i : Nat} {f : Draft → Draft}
    (hf : ∀ d, written hs i d = f d) (hi : ∀ a ∈ hs, ∀ j, a.draft? = some j → j = i) :
    ∀ {drafts : List Nat} {ds : List Draft} {up : Nat}, drafts.Nodup →
      drafts.length = ds.length → drafts[up]? = some i → writtenAll hs drafts ds = ds.modify up f
  | j :: drafts, d :: ds, 0, hnd, hlen, hup => by
    obtain rfl : j = i := by simpa using hup
    have hrest : writtenAll hs drafts ds = ds :=
      writtenAll_of_untouched (by simpa using hlen) fun k hk a ha hak =>
        (List.nodup_cons.mp hnd).1 (hi a ha k hak ▸ hk)
    simpa [writtenAll, hf] using hrest
  | j :: drafts, d :: ds, up + 1, hnd, hlen, hup => by
    have hup' : drafts[up]? = some i := by simpa using hup
    have hne : j ≠ i := fun h => (List.nodup_cons.mp hnd).1 (h ▸ List.mem_of_getElem? hup')
    have hhead : written hs j d = d := written_of_untouched (fun a ha haj => hne (hi a ha j haj)) d
    have hrest := writtenAll_one hf hi (List.nodup_cons.mp hnd).2 (by simpa using hlen) hup'
    simpa [writtenAll, hhead] using hrest

/-- A draft that was written to from its start on is closed with the record of the course. -/
theorem record_written (hs : List Happening) (i : Nat) (severity : Severity) (v : Verbosity)
    (site : Site) (k : Option (Ref Sink)) :
    (written hs i (Draft.start severity v site k)).record = recordOf i severity v site hs := by
  simp only [written, Draft.start, Draft.record, Draft.currentCategory, recordOf,
    String.empty_append, Record.mk.injEq, true_and, and_true]
  cases (categories i hs).getLast? <;> rfl

/-! ### Happenings that keep to the names of sinks -/

/-- A happening whose action, if it has one, is routine. -/
def Happening.IsRoutine : Happening → Prop
  | .ran a => a.isOnDraft = false ∧ a.namesSinks = false
  | _ => True

theorem perform_blind {h : Happening} (hr : h.IsRoutine) (ds : List Draft) :
    Act.Blind (Scene.withDrafts ds) h.perform := by
  cases h with
  | ran a =>
    intro s
    have hblind := (a.run_routine hr.1 hr.2).blind ds s
    simp only [Happening.perform, Act.map, hblind]
  | _ => exact fun _ => rfl

theorem perform_names {h : Happening} (hr : h.IsRoutine) : Act.Keeps Scene.sinks h.perform := by
  cases h with
  | ran a => exact fun s => (a.run_routine hr.1 hr.2).names s
  | _ => exact fun _ => rfl

theorem each_perform_names :
    ∀ {hs : List Happening}, (∀ h ∈ hs, h.IsRoutine) →
      Act.Keeps Scene.sinks (Act.each Happening.perform hs)
  | [], _ => fun _ => rfl
  | _ :: _, hr => (perform_names (hr _ List.mem_cons_self)).bind fun _ =>
      each_perform_names fun h hh => hr h (List.mem_cons_of_mem _ hh)

theorem Action.happenings_routine (drafts : List Nat) {a : Action} (hn : a.namesSinks = false) :
    ∀ h ∈ a.happenings drafts, h.IsRoutine := by
  cases a with
  | onDraft up a =>
    intro h hh
    simp only [happenings] at hh
    cases hup : drafts[up]? with
    | none => simp [hup] at hh
    | some i => cases a <;> simp_all [DraftAction.happenings, Happening.IsRoutine]
  | _ => simpa [happenings, Happening.IsRoutine, isOnDraft] using hn

theorem enclosed_routine {hs : List Happening} (k : Option (Ref Sink))
    (hr : ∀ h ∈ hs, h.IsRoutine) : ∀ h ∈ enclosed k hs, h.IsRoutine := by
  cases k with
  | none => exact hr
  | some k =>
    intro h hh
    rcases List.mem_cons.mp hh with rfl | hh
    · trivial
    · rcases List.mem_append.mp hh with hh | hh
      · exact hr h hh
      · rw [List.mem_singleton.mp hh]
        trivial

theorem drafted_routine {hs : List Happening} (i : Nat) (severity : Severity) (v : Verbosity)
    (site : Site) (k : Option (Ref Sink)) (hr : ∀ h ∈ hs, h.IsRoutine) :
    ∀ h ∈ drafted i severity v site k hs, h.IsRoutine := by
  intro h hh
  rcases List.mem_cons.mp hh with rfl | hh
  · trivial
  · rcases List.mem_append.mp hh with hh | hh
    · exact hr h hh
    · rw [List.mem_singleton.mp hh]
      trivial

mutual

theorem Step.course_routine (sinks : List (String × Ref Sink)) :
    ∀ (step : Step) (drafts : List Nat) (next : Nat), step.namesSinks = false →
      ∀ h ∈ (step.course sinks drafts next).happenings, h.IsRoutine
  | .act a, drafts, next, hn => by
    rw [Step.namesSinks] at hn
    rw [Step.course]
    exact a.happenings_routine drafts hn
  | .within sink steps, drafts, next, hn => by
    rw [Step.namesSinks] at hn
    rw [Step.course]
    exact enclosed_routine _ (course_routine sinks steps drafts next hn)
  | .draft severity v site sink steps, drafts, next, hn => by
    rw [Step.namesSinks] at hn
    rw [Step.course]
    exact drafted_routine _ _ _ _ _ (course_routine sinks steps _ _ hn)
  | .attempt steps, drafts, next, hn => by
    rw [Step.namesSinks] at hn
    rw [Step.course]
    exact course_routine sinks steps drafts next hn
  | .fail message, _, _, _ => by simp [Step.course]

theorem course_routine (sinks : List (String × Ref Sink)) :
    ∀ (steps : List Step) (drafts : List Nat) (next : Nat), anyNamesSinks steps = false →
      ∀ h ∈ (course sinks drafts next steps).happenings, h.IsRoutine
  | [], _, _, _ => by simp [course]
  | step :: steps, drafts, next, hn => by
    rw [anyNamesSinks, Bool.or_eq_false_iff] at hn
    have hfirst := step.course_routine sinks drafts next hn.1
    rw [course]
    split
    · exact hfirst
    · intro h hh
      rcases List.mem_append.mp hh with hh | hh
      · exact hfirst h hh
      · exact course_routine sinks steps drafts _ hn.2 h hh

end

/-! ### Steps follow their course -/

/-- How steps end that raise a message, or none. -/
def endingOutcome : Option String → Outcome Unit
  | none => .done ()
  | some m => .raised m

theorem caught_of_ending {x : Act Scene Unit} {s t : Scene} {ending : Option String}
    (h : x s = (endingOutcome ending, t)) : x.caught s = (.done ending, t) := by
  cases ending <;> simp only [Act.caught, h, endingOutcome]

theorem ensure_of_ending {x cleanup : Act Scene Unit} {s s₁ t : Scene} {ending : Option String}
    (hx : x s = (endingOutcome ending, s₁)) (hc : cleanup s₁ = (.done (), t)) :
    Act.ensure x cleanup s = (endingOutcome ending, t) := by
  cases ending <;> simp only [Act.ensure_run, hx, hc, endingOutcome] <;> rfl

theorem written_enclosed (k : Option (Ref Sink)) (hs : List Happening) :
    written (enclosed k hs) = written hs := by
  funext i d
  cases k <;> simp [enclosed, written, texts, categories]

theorem written_drafted (i : Nat) (severity : Severity) (v : Verbosity) (site : Site)
    (k : Option (Ref Sink)) (hs : List Happening) :
    written (drafted i severity v site k hs) = written hs := by
  funext i d
  simp [drafted, written, texts, categories]

theorem written_happenings (a : DraftAction) (i : Nat) (d : Draft) :
    written (a.happenings i) i d = a.change d := by
  cases a <;> simp [DraftAction.happenings, DraftAction.change, written, texts, categories,
    Draft.append, Draft.setCategory]

theorem draft?_happenings (a : DraftAction) (i : Nat) :
    ∀ h ∈ a.happenings i, ∀ j, h.draft? = some j → j = i := by
  cases a <;> simp [DraftAction.happenings, Happening.draft?]

theorem perform_happenings (a : DraftAction) (i : Nat) (s : Scene) :
    Act.each Happening.perform (a.happenings i) s = (.done (), s) := by
  cases a <;> rfl

theorem Action.enact_eq_course {a : Action} {drafts : List Nat} {ds : List Draft} {s t : Scene}
    (hn : a.namesSinks = false) (hnd : drafts.Nodup) (hlen : drafts.length = ds.length)
    (h : Act.each Happening.perform (a.happenings drafts) s = (.done (), t)) :
    (Step.act a).enact (s.withDrafts ds) =
      (.done (), t.withDrafts (writtenAll (a.happenings drafts) drafts ds)) := by
  have hran (a : Action) (hr : (Happening.ran a).IsRoutine)
      (h : Act.each Happening.perform [.ran a] s = (.done (), t)) :
      (Step.act a).enact (s.withDrafts ds) =
        (.done (), t.withDrafts (writtenAll [.ran a] drafts ds)) := by
    have hblind := perform_blind hr ds s
    rw [Act.each_singleton] at h
    rw [h] at hblind
    rw [Step.enact, writtenAll_of_untouched hlen (by simp [Happening.draft?])]
    exact hblind
  cases a with
  | onDraft up a =>
    rw [Step.enact]
    refine (draftAction_run up a _).trans ?_
    simp only [happenings] at h ⊢
    cases hup : drafts[up]? with
    | none =>
      rw [hup] at h
      obtain rfl : s = t := (Prod.mk.inj h).2
      have hout : ds.length ≤ up := hlen ▸ List.getElem?_eq_none_iff.mp hup
      rw [Option.elim_none, writtenAll_of_untouched hlen (by simp)]
      simp [changeDraft, Scene.withDrafts, List.modify_eq_self, hout]
    | some i =>
      rw [hup, Option.elim_some, perform_happenings] at h
      obtain rfl : s = t := (Prod.mk.inj h).2
      have hone := writtenAll_one (written_happenings a i) (draft?_happenings a i) hnd hlen hup
      rw [Option.elim_some, hone]
      rfl
  | _ => exact hran _ ⟨rfl, hn⟩ h

/-- A body that follows its course does so in a scope, too. -/
theorem within_eq_course {names : Names (Ref Sink)} {k : Option (Ref Sink)}
    {hs : List Happening} {ending : Option String} {body : Act Scene Unit} {drafts : List Nat} {ds : List Draft} {s t : Scene}
    (hs₀ : s.sinks = names)
    (h : Act.each Happening.perform (enclosed k hs) s = (.done (), t))
    (hbody : ∀ s t, s.sinks = names → Act.each Happening.perform hs s = (.done (), t) →
      body (s.withDrafts ds) = (endingOutcome ending, t.withDrafts (writtenAll hs drafts ds))) :
    within k body (s.withDrafts ds) =
      (endingOutcome ending, t.withDrafts (writtenAll (enclosed k hs) drafts ds)) := by
  rw [writtenAll, written_enclosed]
  cases k with
  | none => exact hbody s t hs₀ h
  | some k =>
    rw [enclosed, Act.each_cons] at h
    obtain ⟨s₁, h₁, h₂⟩ := Act.done_of_each_append h
    have hrun := hbody { s with facility := s.facility.enterScope k } s₁ hs₀ h₁
    rw [Act.each_singleton] at h₂
    obtain rfl := (Prod.mk.inj h₂).2
    exact ensure_of_ending hrun rfl

mutual

/-- A step does what its course comes to, and writes to the open drafts. -/
theorem Step.enact_eq_course :
    ∀ (step : Step) {drafts : List Nat} {next : Nat} {ds : List Draft} {s t : Scene},
      step.namesSinks = false → drafts.Nodup → (∀ i ∈ drafts, i < next) →
      drafts.length = ds.length →
      Act.each Happening.perform (step.course s.sinks drafts next).happenings s = (.done (), t) →
      step.enact (s.withDrafts ds) =
        (endingOutcome (step.course s.sinks drafts next).ending,
          t.withDrafts (writtenAll (step.course s.sinks drafts next).happenings drafts ds))
  | .act a, _, _, _, _, _, hn, hnd, _, hlen, h => by
    rw [Step.namesSinks] at hn
    rw [Step.course] at h ⊢
    exact a.enact_eq_course hn hnd hlen h
  | .within sink steps, drafts, next, ds, s, t, hn, hnd, hd, hlen, h => by
    rw [Step.namesSinks] at hn
    rw [Step.course] at h ⊢
    rw [Step.enact]
    refine within_eq_course rfl h fun s' t' hs' h' => ?_
    rw [← hs'] at h' ⊢
    exact enactAll_eq_course steps hn hnd hd hlen h'
  | .draft severity v site sink steps, drafts, next, ds, s, t, hn, hnd, hd, hlen, h => by
    rw [Step.namesSinks] at hn
    rw [Step.course] at h ⊢
    rw [Step.enact]
    simp only [drafted, Act.each_cons] at h
    obtain ⟨s₁, h₁, h₂⟩ := Act.done_of_each_append h
    rw [Act.each_singleton] at h₂
    have hnd' : (next :: drafts).Nodup :=
      List.nodup_cons.mpr ⟨fun hi => Nat.lt_irrefl _ (hd next hi), hnd⟩
    have hd' : ∀ i ∈ next :: drafts, i < next + 1 := by
      intro i hi
      rcases List.mem_cons.mp hi with rfl | hi
      · exact Nat.lt_succ_self _
      · exact Nat.lt_succ_of_lt (hd i hi)
    have hbody : enactAll steps
        (s.withDrafts (Draft.start severity v site (s.sinkRef sink) :: ds)) = _ :=
      enactAll_eq_course steps hn hnd' hd' (by simp [hlen]) h₁
    have hclose : closeDraft (s₁.withDrafts (writtenAll
          (course s.sinks (next :: drafts) (next + 1) steps).happenings (next :: drafts)
          (Draft.start severity v site (s.sinkRef sink) :: ds))) =
        (.done (), t.withDrafts (writtenAll
          (course s.sinks (next :: drafts) (next + 1) steps).happenings drafts ds)) := by
      rw [Happening.perform, ← record_written _ next severity v site (s.sinkRef sink)] at h₂
      have hrun := congrArg
        (fun r : Outcome Unit × Scene => (r.1, r.2.withDrafts (writtenAll
          (course s.sinks (next :: drafts) (next + 1) steps).happenings drafts ds))) h₂
      exact hrun
    rw [writtenAll, written_drafted]
    exact ensure_of_ending hbody hclose
  | .attempt steps, _, _, _, _, _, hn, hnd, hd, hlen, h => by
    rw [Step.namesSinks] at hn
    rw [Step.course] at h ⊢
    have hbody := caught_of_ending (enactAll_eq_course steps hn hnd hd hlen h)
    simp only [Step.enact, Act.map, hbody, Outcome.map, endingOutcome]
  | .fail message, _, _, _, _, _, _, _, _, hlen, h => by
    rw [Step.course] at h ⊢
    obtain rfl := (Prod.mk.inj h).2
    rw [Step.enact, writtenAll_of_untouched hlen (by simp)]
    rfl

/-- Steps do what their course comes to, and write to the open drafts. -/
theorem enactAll_eq_course :
    ∀ (steps : List Step) {drafts : List Nat} {next : Nat} {ds : List Draft} {s t : Scene},
      anyNamesSinks steps = false → drafts.Nodup → (∀ i ∈ drafts, i < next) →
      drafts.length = ds.length →
      Act.each Happening.perform (course s.sinks drafts next steps).happenings s = (.done (), t) →
      enactAll steps (s.withDrafts ds) =
        (endingOutcome (course s.sinks drafts next steps).ending,
          t.withDrafts (writtenAll (course s.sinks drafts next steps).happenings drafts ds))
  | [], _, _, _, _, _, _, _, _, hlen, h => by
    rw [course] at h ⊢
    obtain rfl := (Prod.mk.inj h).2
    rw [enactAll, writtenAll_of_untouched hlen (by simp)]
    rfl
  | step :: steps, drafts, next, ds, s, t, hn, hnd, hd, hlen, h => by
    rw [anyNamesSinks, Bool.or_eq_false_iff] at hn
    have hnested := step.course_nested s.sinks hd
    have hkeep := each_perform_names (step.course_routine s.sinks drafts next hn.1) s
    have hstep {t : Scene} := step.enact_eq_course (s := s) (t := t) hn.1 hnd hd hlen
    rw [enactAll]
    rw [course] at h ⊢
    generalize step.course s.sinks drafts next = c at h hnested hkeep hstep ⊢
    have hd' : ∀ i ∈ drafts, i < c.next := fun i hi => Nat.lt_of_lt_of_le (hd i hi) hnested.le
    cases hend : c.ending with
    | some m =>
      rw [hend] at h hstep
      exact Act.bind_of_raised _ (hstep h)
    | none =>
      rw [hend] at h hstep
      obtain ⟨s₁, h₁, h₂⟩ := Act.done_of_each_append h
      have hnames : s₁.sinks = s.sinks := by rwa [h₁] at hkeep
      have hlen' : drafts.length = (writtenAll c.happenings drafts ds).length :=
        length_writtenAll hlen
      dsimp only at h₂ ⊢
      rw [← hnames] at h₂ ⊢
      rw [Act.bind_of_done _ (hstep h₁), writtenAll_append]
      exact enactAll_eq_course steps hn.2 hnd hd' hlen' h₂

end

/-! ### Whole runs -/

/-- The numbers of the drafts that are open in a scene. -/
def draftNumbers (s : Scene) : List Nat := (List.range s.drafts.length).reverse

/-- The course of steps that are played in a scene. -/
def courseIn (s : Scene) (steps : List Step) : Course :=
  course s.sinks (draftNumbers s) s.drafts.length steps

/-- **Every draft becomes one record, at the end of its scope, whatever ends it.** Let steps be
played in a scene, and let everything return that their course hands a record to. Then the steps do
to the scene exactly what the course does, in its order, and end with the message that it ends with;
the drafts that were open before are still open, with what was written to them. In the course every
draft that is opened is closed once, after all that is ever written to it, with the record of just
that; drafts that are opened while it is open are closed before it; and nothing else is closed. -/
theorem playSteps_close_drafts (mark : Nat) (steps : List Step) (s t : Scene)
    (hn : anyNamesSinks steps = false)
    (h : Act.each Happening.perform (courseIn s steps).happenings s = (.done (), t)) :
    (∃ p, playSteps mark steps s =
        (.done p, t.withDrafts (writtenAll (courseIn s steps).happenings (draftNumbers s) s.drafts)) ∧
      p.raised = (courseIn s steps).ending) ∧
      (∀ i severity v site k, .opened i severity v site k ∈ (courseIn s steps).happenings →
        ClosedOnce (courseIn s steps).happenings i severity v site k) ∧
      ∀ i k r, .closed i k r ∈ (courseIn s steps).happenings →
        ∃ severity v site, .opened i severity v site k ∈ (courseIn s steps).happenings := by
  have hlt : ∀ i ∈ draftNumbers s, i < s.drafts.length := by simp [draftNumbers]
  have hnodup : (draftNumbers s).Nodup := List.pairwise_reverse.mpr (List.nodup_range.imp Ne.symm)
  have hnested : Nested (draftNumbers s) s.drafts.length _ (courseIn s steps).happenings :=
    course_nested s.sinks steps hlt
  have hlen : (draftNumbers s).length = s.drafts.length := by simp [draftNumbers]
  have hrun : enactAll steps (s.withDrafts s.drafts) = _ :=
    enactAll_eq_course steps hn hnodup hlt hlen h
  exact ⟨exists_playSteps mark (caught_of_ending hrun), hnested.once, hnested.opened⟩

/-- A draft that is written to from inside another one, which a message cuts short. -/
theorem playSteps_close_drafts_around_a_handler :
    let site : Site := ⟨"model", 1⟩
    let x : Facility := { Facility.start .recorder ⟨[]⟩ "" none with
      sinks := ⟨#[.memory #[]]⟩
      globalSink := some ⟨0⟩ }
    let s : Scene := { Scene.ofFacility x site with sinks := [("m", ⟨0⟩)] }
    let steps : List Step :=
      [.draft .warning .medium site none
        [.act (.onDraft 0 (.append (.text "a"))),
         .attempt
          [.draft .error .medium site (some "m")
            [.act (.onDraft 1 (.append (.text "b"))), .fail "stop",
             .act (.onDraft 0 (.append (.text "c")))]],
         .act (.onDraft 0 (.setCategory (some "top")))]]
    let inner : Record := ⟨.error, "SystemC", "", .medium, site⟩
    let outer : Record := ⟨.warning, "top", "ab", .medium, site⟩
    anyNamesSinks steps = false ∧
      (courseIn s steps).happenings =
        [.opened 0 .warning .medium site none, .appended 0 "a",
         .opened 1 .error .medium site (some ⟨0⟩), .appended 0 "b", .closed 1 (some ⟨0⟩) inner,
         .categorised 0 (some "top"), .closed 0 none outer] ∧
      ∃ t p, Act.each Happening.perform (courseIn s steps).happenings s = (.done (), t) ∧
        playSteps 0 steps s = (.done p, t.withDrafts []) ∧ p.raised = none ∧
        t.facility.sinks.get ⟨0⟩ = .memory #[inner, outer] := by
  intro site x s steps inner outer
  have hcourse : (courseIn s steps).happenings =
      [.opened 0 .warning .medium site none, .appended 0 "a",
       .opened 1 .error .medium site (some ⟨0⟩), .appended 0 "b", .closed 1 (some ⟨0⟩) inner,
       .categorised 0 (some "top"), .closed 0 none outer] := by
    simp [steps, courseIn, course, Step.course, Action.happenings, DraftAction.happenings, drafted,
      draftNumbers, recordOf, texts, categories, Piece.said, s, Scene.ofFacility, inner, outer,
      Record.defaultCategory]
  have hn : anyNamesSinks steps = false := rfl
  obtain ⟨t, ht, hmem⟩ : ∃ t, Act.each Happening.perform (courseIn s steps).happenings s =
      (.done (), t) ∧ t.facility.sinks.get ⟨0⟩ = .memory #[inner, outer] := by
    rw [hcourse]
    exact ⟨_, rfl, rfl⟩
  obtain ⟨⟨p, hp, hraised⟩, -⟩ := playSteps_close_drafts 0 steps s t hn ht
  exact ⟨hn, hcourse, t, p, ht, hp, hraised, hmem⟩

end Logbook.Scenario
