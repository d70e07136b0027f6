/-
# The course of a scenario

What steps come to can be told from their text as long as everything that takes records returns:
which drafts are opened, what is written to each of them, when it is closed, and which other actions
are run in between. A message that is raised leaves out the rest of the steps up to the nearest
handler, but not the closing of the drafts on its way. Drafts are numbered in the order of their
opening, so that a draft can be followed through the whole course.

Key definitions: `Happening`, `recordOf`, `Course`, `Step.course`, `course`, `ClosedOnce`.
Key theorems: `course_nested`.
-/
import Logbook.Scenario.Step

namespace Logbook.Scenario

/-- Something that happens in the course of steps; drafts are told by their numbers. -/
inductive Happening where
  | opened (i : Nat) (severity : Severity) (v : Verbosity) (site : Site) (sink : Option (Ref Sink))
  | appended (i : Nat) (text : String)
  | categorised (i : Nat) (category : Option String)
  | closed (i : Nat) (sink : Option (Ref Sink)) (r : Record)
  | entered (sink : Ref Sink)
  | left
  /-- An action is run that has nothing to do with drafts. -/
  | ran (a : Action)

/-- The draft that a happening is about. -/
def Happening.draft? : Happening → Option Nat
  | .opened i _ _ _ _ | .appended i _ | .categorised i _ | .closed i _ _ => some i
  | .entered _ | .left | .ran _ => none

/-- The draft that a happening opens or closes. -/
def Happening.bounds? : Happening → Option Nat
  | .opened i _ _ _ _ | .closed i _ _ => some i
  | _ => none

/-! ### What is written to a draft -/

/-- The texts that are appended to a draft. -/
def texts (i : Nat) (hs : List Happening) : List String :=
  hs.filterMap fun
    | .appended j text => if j = i then some text else none
    | _ => none

/-- The categories that a draft is given. -/
def categories (i : Nat) (hs : List Happening) : List (Option String) :=
  hs.filterMap fun
    | .categorised j category => if j = i then some category else none
    | _ => none

/-- The record of a draft: all that was appended to it, under the last category that it was given,
or the default one if that was none. -/
def recordOf (i : Nat) (severity : Severity) (v : Verbosity) (site : Site) (hs : List Happening) :
    Record where
  severity := severity
  category := (categories i hs).getLast?.join.getD Record.defaultCategory
  message := String.join (texts i hs)
  verbosity := v
  site := site

@[simp] theorem texts_append (i : Nat) (hs ks : List Happening) :
    texts i (hs ++ ks) = texts i hs ++ texts i ks := List.filterMap_append

@[simp] theorem categories_append (i : Nat) (hs ks : List Happening) :
    categories i (hs ++ ks) = categories i hs ++ categories i ks := List.filterMap_append

theorem texts_eq_nil {i : Nat} {hs : List Happening} (h : ∀ a ∈ hs, a.draft? ≠ some i) :
    texts i hs = [] := by
  refine List.filterMap_eq_nil_iff.mpr fun a ha => ?_
  cases a with
  | appended j text => exact if_neg fun hj => h _ ha (congrArg some hj)
  | _ => rfl

theorem categories_eq_nil {i : Nat} {hs : List Happening} (h : ∀ a ∈ hs, a.draft? ≠ some i) :
    categories i hs = [] := by
  refine List.filterMap_eq_nil_iff.mpr fun a ha => ?_
  cases a with
  | categorised j category => exact if_neg fun hj => h _ ha (congrArg some hj)
  | _ => rfl

/-! ### Courses -/

/-- The course of steps. -/
structure Course where
  happenings : List Happening
  /-- The message that the steps end with, if they raise one. -/
  ending : Option String
  /-- The number of the next draft. -/
  next : Nat

/-- What an action on a draft comes to. -/
def DraftAction.happenings (i : Nat) : DraftAction → List Happening
  | .append p => [.appended i p.said]
  | .setCategory category => [.categorised i category]
  | .state | .describe => []

/-- What an action comes to while drafts are open, the innermost first. -/
def Action.happenings (drafts : List Nat) : Action → List Happening
  | .onDraft up a => (drafts[up]?).elim [] fun i => a.happenings i
  | a => [.ran a]

/-- The happenings of a scope around others. -/
def enclosed (k : Option (Ref Sink)) (hs : List Happening) : List Happening :=
  match k with
  | none => hs
  | some k => .entered k :: (hs ++ [.left])

/-- The happenings of a draft around others. -/
def drafted (i : Nat) (severity : Severity) (v : Verbosity) (site : Site)
    (k : Option (Ref Sink)) (hs : List Happening) : List Happening :=
  .opened i severity v site k :: (hs ++ [.closed i k (recordOf i severity v site hs)])

mutual

/-- The course of a step, given the sinks by their names, the open drafts and the number of the next
one. -/
def Step.course (sinks : List (String × Ref Sink)) (drafts : List Nat) (next : Nat) : Step → Course
  | .act a => ⟨a.happenings drafts, none, next⟩
  | .within sink steps =>
    let c := course sinks drafts next steps
    { c with happenings := enclosed (sinks.lookup sink) c.happenings }
  | .draft severity v site sink steps =>
    let c := course sinks (next :: drafts) (next + 1) steps
    { c with
      happenings := drafted next severity v site (sink.bind fun id => sinks.lookup id) c.happenings }
  | .attempt steps => { course sinks drafts next steps with ending := none }
  | .fail message => ⟨[], some message, next⟩

/-- The course of steps, which ends with the first that raises a message. -/
def course (sinks : List (String × Ref Sink)) (drafts : List Nat) (next : Nat) :
    List Step → Course
  | [] => ⟨[], none, next⟩
  | step :: steps =>
    let c := step.course sinks drafts next
    match c.ending with
    | some m => ⟨c.happenings, some m, c.next⟩
    | none =>
      let rest := course sinks drafts c.next steps
      ⟨c.happenings ++ rest.happenings, rest.ending, rest.next⟩

end

/-! ### Drafts are closed once, inner ones first -/

/-- A draft is opened and closed at one place each. What is written to it is written in between, and
makes the record that it is closed with; the drafts that are opened in between are closed there. -/
def ClosedOnce (hs : List Happening) (i : Nat) (severity : Severity) (v : Verbosity) (site : Site)
    (k : Option (Ref Sink)) : Prop :=
  ∃ before body after,
    hs = before ++ .opened i severity v site k ::
      (body ++ .closed i k (recordOf i severity v site body) :: after) ∧
    (∀ h ∈ before ++ after, h.draft? ≠ some i) ∧
    (∀ h ∈ body, h.bounds? ≠ some i) ∧
    ∀ j severity' v' site' k', .opened j severity' v' site' k' ∈ body →
      ∃ r, .closed j k' r ∈ body

theorem ClosedOnce.closed_mem {hs : List Happening} {i : Nat} {severity : Severity} {v : Verbosity}
    {site : Site} {k : Option (Ref Sink)} (h : ClosedOnce hs i severity v site k) :
    ∃ r, .closed i k r ∈ hs := by
  obtain ⟨before, body, after, rfl, -⟩ := h
  refine ⟨recordOf i severity v site body, ?_⟩
  simp

/-- A draft that is closed once in a part of a course is so in the whole, if the rest does not touch
it. -/
theorem ClosedOnce.extend {hs : List Happening} {i : Nat} {severity : Severity} {v : Verbosity}
    {site : Site} {k : Option (Ref Sink)} (h : ClosedOnce hs i severity v site k)
    (before after : List Happening) (hb : ∀ h ∈ before, h.draft? ≠ some i)
    (ha : ∀ h ∈ after, h.draft? ≠ some i) :
    ClosedOnce (before ++ (hs ++ after)) i severity v site k := by
  obtain ⟨before', body, after', rfl, hout, hin, hnest⟩ := h
  refine ⟨before ++ before', body, after' ++ after, by simp, ?_, hin, hnest⟩
  intro h hh
  simp only [List.mem_append] at hh hout
  rcases hh with (hh | hh) | hh | hh
  · exact hb h hh
  · exact hout h (.inl hh)
  · exact hout h (.inr hh)
  · exact ha h hh

/-- Happenings of steps that run while drafts are open, and that open those with the numbers from
`low` up to `high`. -/
structure Nested (drafts : List Nat) (low high : Nat) (hs : List Happening) : Prop where
  le : low ≤ high
  older : ∀ i ∈ drafts, i < low
  drafts : ∀ h ∈ hs, ∀ i, h.draft? = some i → i ∈ drafts ∨ low ≤ i ∧ i < high
  bounds : ∀ h ∈ hs, ∀ i, h.bounds? = some i → low ≤ i ∧ i < high
  once : ∀ i severity v site k, .opened i severity v site k ∈ hs → ClosedOnce hs i severity v site k
  opened : ∀ i k r, .closed i k r ∈ hs → ∃ severity v site, .opened i severity v site k ∈ hs

namespace Nested

variable {drafts : List Nat} {low mid high : Nat} {hs ks : List Happening}

/-- Happenings that open and close nothing, and that are about open drafts only. -/
theorem of_inner (hd : ∀ i ∈ drafts, i < low) (h : ∀ a ∈ hs, ∀ i, a.draft? = some i → i ∈ drafts)
    (hb : ∀ a ∈ hs, a.bounds? = none) : Nested drafts low low hs where
  le := Nat.le_refl _
  older := hd
  drafts a ha i hi := .inl (h a ha i hi)
  bounds a ha i hi := by simp [hb a ha] at hi
  once i severity v site k hi := by simpa [Happening.bounds?] using hb _ hi
  opened i k r hi := by simpa [Happening.bounds?] using hb _ hi

theorem nil (hd : ∀ i ∈ drafts, i < low) : Nested drafts low low [] :=
  of_inner hd (by simp) (by simp)

theorem append (h₁ : Nested drafts low mid hs) (h₂ : Nested drafts mid high ks) :
    Nested drafts low high (hs ++ ks) where
  le := Nat.le_trans h₁.le h₂.le
  older := h₁.older
  drafts a ha i hi := by
    have hle₁ := h₁.le
    have hle₂ := h₂.le
    rcases List.mem_append.mp ha with ha | ha
    · rcases h₁.drafts a ha i hi with hi | hi
      · exact .inl hi
      · exact .inr (by omega)
    · rcases h₂.drafts a ha i hi with hi | hi
      · exact .inl hi
      · exact .inr (by omega)
  bounds a ha i hi := by
    have hle₁ := h₁.le
    have hle₂ := h₂.le
    rcases List.mem_append.mp ha with ha | ha
    · have := h₁.bounds a ha i hi
      omega
    · have := h₂.bounds a ha i hi
      omega
  once i severity v site k hi := by
    rcases List.mem_append.mp hi with hi | hi
    · have hlow := h₁.bounds _ hi i rfl
      have hrest : ∀ a ∈ ks, a.draft? ≠ some i := fun a ha he => by
        rcases h₂.drafts a ha i he with he | he
        · exact absurd (h₁.older i he) (by omega)
        · omega
      exact (h₁.once i severity v site k hi).extend [] ks (by simp) hrest
    · have hlow := h₂.bounds _ hi i rfl
      have hrest : ∀ a ∈ hs, a.draft? ≠ some i := fun a ha he => by
        rcases h₁.drafts a ha i he with he | he
        · exact absurd (h₂.older i he) (by omega)
        · omega
      simpa using (h₂.once i severity v site k hi).extend hs [] hrest (by simp)
  opened i k r hi := by
    rcases List.mem_append.mp hi with hi | hi
    · obtain ⟨severity, v, site, ho⟩ := h₁.opened i k r hi
      exact ⟨severity, v, site, List.mem_append_left _ ho⟩
    · obtain ⟨severity, v, site, ho⟩ := h₂.opened i k r hi
      exact ⟨severity, v, site, List.mem_append_right _ ho⟩

theorem enclosed (h : Nested drafts low high hs) (k : Option (Ref Sink)) :
    Nested drafts low high (enclosed k hs) := by
  cases k with
  | none => exact h
  | some k =>
    have henter : Nested drafts low low [.entered k] :=
      of_inner h.older (by simp [Happening.draft?]) (by simp [Happening.bounds?])
    have hleft : Nested drafts high high [.left] :=
      of_inner (fun i hi => Nat.lt_of_lt_of_le (h.older i hi) h.le) (by simp [Happening.draft?])
        (by simp [Happening.bounds?])
    exact henter.append (h.append hleft)

theorem drafted (h : Nested (low :: drafts) (low + 1) high hs) (hd : ∀ i ∈ drafts, i < low)
    (severity : Severity) (v : Verbosity) (site : Site) (k : Option (Ref Sink)) :
    Nested drafts low high (drafted low severity v site k hs) := by
  have hle := h.le
  have hmem {a : Happening} (ha : a ∈ Scenario.drafted low severity v site k hs) :
      a = .opened low severity v site k ∨ a ∈ hs ∨
        a = .closed low k (recordOf low severity v site hs) := by
    simpa [Scenario.drafted] using ha
  refine ⟨by omega, hd, fun a ha i hi => ?_, fun a ha i hi => ?_,
    fun i severity' v' site' k' hi => ?_, fun i k' r hi => ?_⟩
  · rcases hmem ha with rfl | ha | rfl
    · obtain rfl := Option.some.inj hi
      exact .inr (by omega)
    · rcases h.drafts a ha i hi with hi | hi
      · rcases List.mem_cons.mp hi with rfl | hi
        · exact .inr (by omega)
        · exact .inl hi
      · exact .inr (by omega)
    · obtain rfl := Option.some.inj hi
      exact .inr (by omega)
  · rcases hmem ha with rfl | ha | rfl
    · obtain rfl := Option.some.inj hi
      omega
    · have := h.bounds a ha i hi
      omega
    · obtain rfl := Option.some.inj hi
      omega
  · rcases hmem hi with heq | hi | heq
    · obtain ⟨rfl, rfl, rfl, rfl, rfl⟩ := Happening.opened.inj heq
      refine ⟨[], hs, [], rfl, by simp, fun a ha he => ?_, fun j severity v site k hj => ?_⟩
      · have := h.bounds a ha _ he
        omega
      · exact (h.once j severity v site k hj).closed_mem
    · have hi' := h.bounds _ hi i rfl
      have hne : ¬ low = i := by omega
      exact (h.once i severity' v' site' k' hi).extend [.opened low severity v site k]
        [.closed low k (recordOf low severity v site hs)]
        (by simpa [Happening.draft?] using hne) (by simpa [Happening.draft?] using hne)
    · simp at heq
  · rcases hmem hi with heq | hi | heq
    · simp at heq
    · obtain ⟨severity', v', site', ho⟩ := h.opened i k' r hi
      exact ⟨severity', v', site', by simp [Scenario.drafted, ho]⟩
    · obtain ⟨rfl, rfl, rfl⟩ := Happening.closed.inj heq
      exact ⟨severity, v, site, by simp [Scenario.drafted]⟩

end Nested

theorem Action.happenings_nested {drafts : List Nat} {next : Nat} (hd : ∀ i ∈ drafts, i < next)
    (a : Action) : Nested drafts next next (a.happenings drafts) := by
  have hran (a : Action) : Nested drafts next next [.ran a] :=
    .of_inner hd (by simp [Happening.draft?]) (by simp [Happening.bounds?])
  cases a with
  | onDraft up a =>
    simp only [happenings]
    cases hup : drafts[up]? with
    | none => exact .nil hd
    | some i =>
      have hi : i ∈ drafts := List.mem_of_getElem? hup
      cases a with
      | append p =>
        exact .of_inner hd (by simpa [DraftAction.happenings, Happening.draft?] using hi)
          (by simp [DraftAction.happenings, Happening.bounds?])
      | setCategory c =>
        exact .of_inner hd (by simpa [DraftAction.happenings, Happening.draft?] using hi)
          (by simp [DraftAction.happenings, Happening.bounds?])
      | state => exact .nil hd
      | describe => exact .nil hd
  | _ => exact hran _

mutual

theorem Step.course_nested (sinks : List (String × Ref Sink)) :
    ∀ (step : Step) {drafts : List Nat} {next : Nat}, (∀ i ∈ drafts, i < next) →
      Nested drafts next (step.course sinks drafts next).next
        (step.course sinks drafts next).happenings
  | .act a, _, _, hd => by
    rw [Step.course]
    exact a.happenings_nested hd
  | .within sink steps, _, _, hd => by
    rw [Step.course]
    exact (course_nested sinks steps hd).enclosed _
  | .draft severity v site sink steps, drafts, next, hd => by
    rw [Step.course]
    have hinner : ∀ i ∈ next :: drafts, i < next + 1 := by
      intro i hi
      rcases List.mem_cons.mp hi with rfl | hi
      · omega
      · have := hd i hi
        omega
    exact (course_nested sinks steps hinner).drafted hd _ _ _ _
  | .attempt steps, _, _, hd => by
    rw [Step.course]
    exact course_nested sinks steps hd
  | .fail message, _, _, hd => by
    rw [Step.course]
    exact .nil hd

/-- Whatever steps open is closed once, and inside what it was opened in. -/
theorem course_nested (sinks : List (String × Ref Sink)) :
    ∀ (steps : List Step) {drafts : List Nat} {next : Nat}, (∀ i ∈ drafts, i < next) →
      Nested drafts next (course sinks drafts next steps).next
        (course sinks drafts next steps).happenings
  | [], _, _, hd => by
    rw [course]
    exact .nil hd
  | step :: steps, drafts, next, hd => by
    have hfirst := step.course_nested sinks hd
    rw [course]
    split
    · exact hfirst
    · exact hfirst.append
        (course_nested sinks steps fun i hi => Nat.lt_of_lt_of_le (hfirst.older i hi) hfirst.le)

end

end Logbook.Scenario
