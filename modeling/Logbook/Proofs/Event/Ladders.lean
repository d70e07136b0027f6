/-
# Two ladders over one scale

An informational record is shown with a label and travels as an event with a level, and both are read off
its verbosity. The label is the last rung whose threshold the verbosity reaches; the event has the first
rung whose threshold the verbosity does not exceed, which is the rule by which a registry admits it.
On the thresholds themselves, below the first and from the last but one on, the two come to the same.
Strictly between two thresholds the event is one rung finer than the label says, and a backend that is
told to show a level leaves out lines that bear the label of just that level.

Key definitions: `Level.eventLevel?`, `Record.exceeded?`.
Key theorems: `Record.level_of_info`, `Record.eventLevel_of_exceeded`, `Directive.carries_atMost`,
`Record.eventLevel_eq_label_iff`.
-/
import Logbook.Directive
import Logbook.Proofs.Registry.Thresholds

namespace Logbook

/-- The level of events that a level of records corresponds to; none for the level at which nothing is
shown. -/
def Level.eventLevel? : Level → Option EventLevel
  | .off => none
  | .fatal | .error => some .error
  | .warning => some .warn
  | .info => some .info
  | .debug => some .debug
  | .trace | .traceAll => some .trace

/-- The numbers of the thresholds of informational records. -/
theorem Verbosity.toNat_thresholds :
    medium.value.toNat = 200 ∧ high.value.toNat = 300 ∧ full.value.toNat = 400 ∧
      debug.value.toNat = 500 := by
  decide

namespace Record

/-- The level whose threshold an informational record exceeds without reaching the next one. -/
def exceeded? (r : Record) : Option EventLevel :=
  if r.severity ≠ .info then none
  else if .medium < r.verbosity ∧ r.verbosity < .high then some .info
  else if .high < r.verbosity ∧ r.verbosity < .full then some .debug
  else none

/-- The label of an informational record is the last rung whose threshold it reaches. -/
theorem level_of_info {r : Record} (h : r.severity = .info) :
    r.level =
      if .debug ≤ r.verbosity then .traceAll
      else if .full ≤ r.verbosity then .trace
      else if .high ≤ r.verbosity then .debug
      else .info := by
  simp only [level, h, Level.ofVerbosity]
  by_cases hsilent : r.verbosity = .silent
  · rw [hsilent]
    rfl
  · rw [if_neg hsilent]
    repeat' split
    all_goals rfl

/-- The level of the event of an informational record is the first rung whose threshold it does not
exceed. -/
theorem eventLevel_of_info {r : Record} (h : r.severity = .info) :
    r.eventLevel =
      if r.verbosity ≤ Level.info.verbosity then .info
      else if r.verbosity ≤ Level.debug.verbosity then .debug
      else .trace := by
  simp only [eventLevel, h]
  rfl

/-- What travels at another level than its label says exceeds the threshold of the label without
reaching the next one, and travels one rung finer. -/
theorem eventLevel_of_exceeded {r : Record} {l : EventLevel} (h : r.exceeded? = some l) :
    r.level.eventLevel? = some l ∧ r.eventLevel.rank = l.rank + 1 := by
  obtain ⟨hmedium, hhigh, hfull, hdebug⟩ := Verbosity.toNat_thresholds
  unfold exceeded? at h
  split at h
  · exact absurd h (by simp)
  · next hinfo =>
    have hinfo : r.severity = .info := by simpa using hinfo
    rw [level_of_info hinfo, eventLevel_of_info hinfo]
    simp only [Level.verbosity, Verbosity.le_iff, Verbosity.lt_iff] at h ⊢
    split at h
    · cases h
      rw [if_neg (by omega), if_neg (by omega), if_neg (by omega), if_neg (by omega), if_pos (by omega)]
      exact ⟨rfl, rfl⟩
    · split at h
      · cases h
        rw [if_neg (by omega), if_neg (by omega), if_pos (by omega), if_neg (by omega),
          if_neg (by omega)]
        exact ⟨rfl, rfl⟩
      · exact absurd h (by simp)

/-- Everything else travels at the level that its label says. -/
theorem eventLevel_of_not_exceeded {r : Record} (h : r.exceeded? = none) :
    r.level.eventLevel? = some r.eventLevel := by
  obtain ⟨hmedium, hhigh, hfull, hdebug⟩ := Verbosity.toNat_thresholds
  by_cases hinfo : r.severity = .info
  · rw [level_of_info hinfo, eventLevel_of_info hinfo]
    simp only [exceeded?, hinfo, ne_eq, not_true_eq_false, if_false, Level.verbosity, Verbosity.le_iff,
      Verbosity.lt_iff] at h ⊢
    grind [Level.eventLevel?]
  · simp only [level, eventLevel]
    cases hs : r.severity with
    | info => exact absurd hs hinfo
    | warning => rfl
    | error => rfl
    | fatal => rfl

/-- An event of an informational record is at info or above, or at debug or above, exactly if a registry at
that level admits a record of its verbosity. -/
theorem rank_eventLevel_le_iff {r : Record} (h : r.severity = .info) :
    (r.eventLevel.rank ≤ EventLevel.info.rank ↔ r.verbosity ≤ Level.info.verbosity) ∧
      (r.eventLevel.rank ≤ EventLevel.debug.rank ↔ r.verbosity ≤ Level.debug.verbosity) := by
  have hle : r.verbosity ≤ Level.info.verbosity → r.verbosity ≤ Level.debug.verbosity := fun hv =>
    Verbosity.le_trans hv (by decide)
  rw [eventLevel_of_info h]
  by_cases hinfo : r.verbosity ≤ Level.info.verbosity
  · simp [hinfo, hle hinfo, EventLevel.rank]
  · by_cases hdebug : r.verbosity ≤ Level.debug.verbosity
    · simp [hinfo, hdebug, EventLevel.rank]
    · simp [hinfo, hdebug, EventLevel.rank]

end Record

namespace Directive

/-- The directive that carries everything down to a level, whatever its target. -/
def atMost (l : EventLevel) : Directive := ⟨none, none, none, some l⟩

/-- Directives that consist of the name of a level. -/
theorem list_name (l : EventLevel) : list l.name = .ok [atMost l] := by
  cases l <;> rfl

theorem carries_atMost (l : EventLevel) (e : Event) :
    carries [atMost l] e = true ↔ e.level.rank ≤ l.rank := by
  simp [carries, deciding?, concerns, atMost]

end Directive

namespace Record

/-- A backend that is told to show a level shows the records with labels down to that level, but for
those that exceed the threshold of just that level. -/
theorem rank_eventLevel_le_iff_label (r : Record) (l : EventLevel) :
    r.eventLevel.rank ≤ l.rank ↔
      (∃ k, r.level.eventLevel? = some k ∧ k.rank ≤ l.rank) ∧ r.exceeded? ≠ some l := by
  have hinj : ∀ {k m : EventLevel}, k.rank = m.rank → k = m := by
    intro k m
    cases k <;> cases m <;> decide
  cases h : r.exceeded? with
  | none => simp [eventLevel_of_not_exceeded h]
  | some m =>
    obtain ⟨hlabel, hrank⟩ := eventLevel_of_exceeded h
    rw [hlabel, hrank]
    constructor
    · intro hle
      refine ⟨⟨m, rfl, by omega⟩, ?_⟩
      rintro ⟨rfl⟩
      omega
    · rintro ⟨⟨k, hk, hle⟩, hne⟩
      cases hk
      have hother : m.rank ≠ l.rank := fun he => hne (congrArg some (hinj he))
      omega

/-- **A record travels at the level of its label, or one rung finer where its verbosity lies strictly between
two thresholds.** The level of a record's event is the one that its label corresponds to, except for an
informational record whose verbosity lies strictly between the thresholds of info and debug or between those
of debug and trace: it bears the label of the lower threshold, and its event has the next finer level. For
the event has the first level whose threshold lets the verbosity pass, as in a registry at that level. So a
backend that is told the name of a level shows exactly the records whose label is at that level or above it,
except for those that exceed the threshold of just that level without reaching the next. -/
theorem eventLevel_eq_label_iff (r : Record) :
    (r.level.eventLevel? = some r.eventLevel ↔ r.exceeded? = none) ∧
      (∀ l, r.exceeded? = some l →
        r.level.eventLevel? = some l ∧ r.eventLevel.rank = l.rank + 1) ∧
      (r.severity = .info →
        (r.eventLevel.rank ≤ EventLevel.info.rank ↔ r.verbosity ≤ Level.info.verbosity) ∧
          (r.eventLevel.rank ≤ EventLevel.debug.rank ↔ r.verbosity ≤ Level.debug.verbosity)) ∧
      ∀ l : EventLevel, ∃ ds, Directive.list l.name = .ok ds ∧
        (Directive.carries ds (.ofRecord r) = true ↔
          (∃ k, r.level.eventLevel? = some k ∧ k.rank ≤ l.rank) ∧ r.exceeded? ≠ some l) := by
  refine ⟨⟨fun hsame => ?_, eventLevel_of_not_exceeded⟩, fun l => eventLevel_of_exceeded,
    rank_eventLevel_le_iff, fun l => ⟨_, Directive.list_name l, ?_⟩⟩
  · cases hexceeded : r.exceeded? with
    | none => rfl
    | some l =>
      obtain ⟨hlabel, hrank⟩ := eventLevel_of_exceeded hexceeded
      rw [hlabel] at hsame
      cases hsame
      omega
  · rw [Directive.carries_atMost]
    exact rank_eventLevel_le_iff_label r l

/-- Records of verbosities on a threshold and between two. -/
theorem eventLevel_eq_label_iff_around_high :
    let told : Record := ⟨.info, "top", "m", .high, ⟨"model", 1⟩⟩
    let between : Record := ⟨.info, "top", "m", ⟨301⟩, ⟨"model", 2⟩⟩
    (told.exceeded? = none ∧ told.level.eventLevel? = some told.eventLevel) ∧
      between.exceeded? = some .debug ∧ between.level.eventLevel? = some .debug ∧
      between.eventLevel.rank = EventLevel.debug.rank + 1 ∧
      ∃ ds, Directive.list "DEBUG" = .ok ds ∧ ¬ Directive.carries ds (.ofRecord between) = true := by
  intro told between
  have htold : told.exceeded? = none := by decide
  have hbetween : between.exceeded? = some .debug := by decide
  obtain ⟨-, hfiner, -, hcarried⟩ := eventLevel_eq_label_iff between
  obtain ⟨hlabel, hrank⟩ := hfiner _ hbetween
  obtain ⟨ds, hds, hiff⟩ := hcarried .debug
  exact ⟨⟨htold, (eventLevel_eq_label_iff told).1.mpr htold⟩, hbetween, hlabel, hrank, ds, hds,
    fun h => (hiff.mp h).2 hbetween⟩

/-- A record that is labelled as info and travels at debug, so that a backend which is told to show info
leaves it out. -/
theorem label_above_event :
    let r : Record := ⟨.info, "top", "m", ⟨250⟩, ⟨"model", 1⟩⟩
    r.level.name = "INFO" ∧ r.eventLevel.name = "DEBUG" ∧
      ¬ r.level.eventLevel? = some r.eventLevel ∧
      Directive.list "INFO" = .ok [.atMost .info] ∧
      Directive.carries [.atMost .info] (.ofRecord r) = false :=
  ⟨rfl, by decide, by decide, rfl, by decide⟩

end Record

end Logbook
