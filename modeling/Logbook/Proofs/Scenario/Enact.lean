/-
# Steps without their answers

Playing steps collects their answers and the news on the way. None of this can be seen by the steps
themselves: what they do to the scene, and how they end, is told by `enactAll`, which just runs one
after the other. What is shown about the runs of scenarios is shown about `enactAll` first.

Key definitions: `Step.enact`, `enactAll`.
Key theorems: `playSteps_eq_enactAll`, `exists_playSteps`.
-/
import Logbook.Proofs.Act.Frame
import Logbook.Scenario.Play

namespace Logbook.Scenario

/-- A scene in which one more draft is open. -/
def Scene.openDraft (severity : Severity) (v : Verbosity) (site : Site) (sink : Option String)
    (s : Scene) : Scene :=
  { s with drafts := Draft.start severity v site (s.sinkRef sink) :: s.drafts }

mutual

/-- Runs a step. -/
def Step.enact : Step → Act Scene Unit
  | .act a => Act.map (fun _ => ()) a.run
  | .within sink steps => do
    let s ← Act.read
    within (s.sinks.lookup sink) (enactAll steps)
  | .draft severity v site sink steps => do
    Act.modify (Scene.openDraft severity v site sink)
    Act.ensure (enactAll steps) closeDraft
  | .attempt steps => Act.map (fun _ => ()) (enactAll steps).caught
  | .fail message => Act.raise message

/-- Runs steps up to the first that raises a message. -/
def enactAll : List Step → Act Scene Unit
  | [] => pure ()
  | step :: steps => do
    step.enact
    enactAll steps

end

theorem map_within {α β : Type} (f : α → β) (k : Option (Ref Sink)) (body : Act Scene α) :
    Act.map f (within k body) = within k (Act.map f body) := by
  cases k with
  | none => rfl
  | some k => simp only [within, Act.map_bind, Act.map_ensure]

/-- Steps whose last message is passed on end like the bare steps. -/
theorem map_unlessRaised {mark : Nat} {steps : List Step}
    (h : Act.map Played.raised (playSteps mark steps) = (enactAll steps).caught) :
    (do
      let p ← playSteps mark steps
      Act.map (fun _ => ()) p.unlessRaised) = enactAll steps := by
  funext s
  have hs := congrFun h s
  simp only [Act.map, Act.caught] at hs
  simp only [Act.map, Act.bind_run]
  rcases hp : playSteps mark steps s with ⟨⟨answers, reached, raised⟩ | _ | _, t⟩ <;>
    rcases he : enactAll steps s with ⟨_ | _ | _, t'⟩ <;> rw [hp, he] at hs <;>
    simp only [Outcome.map, Prod.mk.injEq, Outcome.done.injEq, reduceCtorEq, false_and] at hs
  · obtain ⟨rfl, rfl⟩ := hs; rfl
  · obtain ⟨rfl, rfl⟩ := hs; rfl
  · obtain ⟨-, rfl⟩ := hs; rfl

mutual

/-- Playing a step is running it. -/
theorem playStep_eq_enact (mark : Nat) :
    ∀ step : Step, Act.map (fun _ => ()) (playStep mark step) = step.enact
  | .act a => by
    rw [playStep, Step.enact, Act.bind_pure_eq_map, Act.map_map]
  | .within sink steps => by
    have ih := map_unlessRaised (playSteps_eq_enactAll mark steps)
    rw [playStep, Step.enact, Act.map_bind]
    simp only [Act.bind_pure_eq_map, Act.map_map, map_within, Act.map_bind, ih]
  | .draft severity v site sink steps => by
    have ih := map_unlessRaised (playSteps_eq_enactAll mark steps)
    rw [playStep, Step.enact, Act.map_bind]
    simp only [Act.bind_pure_eq_map, Act.map_map, Act.map_ensure, Act.map_bind, ih]
    rfl
  | .attempt steps => by
    have ih := playSteps_eq_enactAll mark steps
    rw [playStep, Step.enact, ← ih, Act.bind_pure_eq_map, Act.map_map, Act.map_map]
  | .fail message => by rw [playStep, Step.enact]; rfl

/-- Playing steps is running them, and what is noted as raised is the message that they end with. -/
theorem playSteps_eq_enactAll (mark : Nat) :
    ∀ steps : List Step, Act.map Played.raised (playSteps mark steps) = (enactAll steps).caught
  | [] => by rw [playSteps, enactAll]; rfl
  | step :: steps => by
    funext s
    have hstep := congrFun (playStep_eq_enact mark step) s
    rw [playSteps, enactAll]
    simp only [Act.map, Act.caught, Act.bind_run, ← hstep, Act.attempt]
    rcases playStep mark step s with ⟨⟨result, reached⟩ | _ | _, t⟩
    · have hrest := congrFun (playSteps_eq_enactAll t.mark steps) t
      simp only [Act.map, Act.caught] at hrest
      simp only [Outcome.map, Act.read, Act.bind_run]
      rw [← hrest]
      rcases playSteps t.mark steps t with ⟨_ | _ | _, u⟩ <;> rfl
    · rfl
    · rfl

end

/-- Steps that are run return, and note what they end with. -/
theorem exists_playSteps (mark : Nat) {steps : List Step} {s t : Scene} {ending : Option String}
    (h : (enactAll steps).caught s = (.done ending, t)) :
    ∃ p, playSteps mark steps s = (.done p, t) ∧ p.raised = ending := by
  rw [← playSteps_eq_enactAll mark] at h
  simp only [Act.map, Prod.mk.injEq] at h
  obtain ⟨hout, rfl⟩ := h
  rcases hp : playSteps mark steps s with ⟨p | _ | _, t⟩ <;> rw [hp] at hout <;>
    simp only [Outcome.map, Outcome.done.injEq, reduceCtorEq] at hout
  exact ⟨p, rfl, hout⟩

/-- Steps that note a message when they are played raise it when they are run. -/
theorem enactAll_of_playSteps {mark : Nat} {steps : List Step} {s t : Scene} {p : Played}
    {m : String} (h : playSteps mark steps s = (.done p, t)) (hm : p.raised = some m) :
    enactAll steps s = (.raised m, t) := by
  have hrun := congrFun (playSteps_eq_enactAll mark steps) s
  simp only [Act.map, Act.caught, h, Outcome.map, hm] at hrun
  rcases he : enactAll steps s with ⟨_ | m' | _, t'⟩ <;> rw [he] at hrun <;>
    simp only [Prod.mk.injEq, Outcome.done.injEq, Option.some.injEq, reduceCtorEq,
      false_and] at hrun
  rw [hrun.1, hrun.2]

end Logbook.Scenario
