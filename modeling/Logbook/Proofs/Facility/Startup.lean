/-
# What a failed set-up leaves behind

Setting a facility up can fail at four places. Whatever the process logs by is only touched behind the
last of them, so a set-up that fails leaves the level, the process-wide sink, the worker and all else in
the process as it was. The log file is the exception: it is created, or emptied, before the directives are
read and the backend is installed, and stays so when one of these fails.

Key definitions: `Disk.content?`, `Settings.logName?`.
Key theorems: `Disk.content?_change`, `Facility.install_error_cases`, `Facility.install_of_malformed`,
`Facility.install_of_installed`, `Facility.install_spares`.
-/
import Logbook.Facility.Startup

namespace Logbook

namespace Disk

/-- The content of a file, if it is there. -/
def content? (d : Disk) (name : String) : Option (Array UInt8) := d.files.lookup name

theorem lookup_map_change (name other : String) (f : Array UInt8 → Array UInt8)
    (files : List (String × Array UInt8)) :
    (files.map fun x => if x.1 = name then (name, f x.2) else x).lookup other =
      if other = name then (files.lookup name).map f else files.lookup other := by
  induction files with
  | nil => simp
  | cons file files ih =>
    obtain ⟨n, content⟩ := file
    by_cases hn : n = name
    · subst hn
      by_cases hother : other = n
      · simp [hother]
      · have hkey : (other == n) = false := by simpa using hother
        simp [List.lookup_cons, hkey, ih, hother]
    · have hname : (name == n) = false := by simpa using Ne.symm hn
      rw [List.map_cons, if_neg hn, List.lookup_cons, List.lookup_cons, List.lookup_cons, ih, hname]
      by_cases hother : other = n
      · subst hother
        simp [hn]
      · have hkey : (other == n) = false := by simpa using hother
        simp [hkey]

/-- Changing a file changes its content, or creates it, and touches no other. -/
theorem content?_change (d : Disk) (name other : String) (f : Array UInt8 → Array UInt8) :
    (d.change name f).content? other =
      if other = name then some (f ((d.content? name).getD #[])) else d.content? other := by
  rw [change, has]
  cases hfile : d.files.lookup name with
  | some content =>
    rw [if_pos Option.isSome_some, content?, lookup_map_change, content?, content?, hfile]
    rfl
  | none =>
    rw [if_neg (by decide), content?, List.lookup_append, content?, content?, hfile]
    by_cases hother : other = name
    · simp [hother, hfile]
    · have hkey : (other == name) = false := by simpa using hother
      simp [List.lookup_cons, hkey, hother]

end Disk

/-- The name of the file that settings ask to be written to, if their path means one. -/
def Settings.logName? (s : Settings) (d : Disk) : Option String :=
  s.logFile.bind fun path => (d.resolve path).toOption

namespace Facility

/-- A log file is created under its name, or emptied, and no other file is touched. -/
theorem content?_createLogFile {s : Settings} {d d' : Disk} {log : Option LogFile}
    (h : createLogFile s d = .ok (log, d')) (name : String) :
    d'.content? name = if s.logName? d = some name then some #[] else d.content? name := by
  rw [createLogFile] at h
  cases hpath : s.logFile with
  | none =>
    simp only [hpath, Except.ok.injEq, Prod.mk.injEq] at h
    rw [Settings.logName?, hpath, ← h.2]
    rfl
  | some path =>
    cases hname : d.resolve path with
    | error fault => simp [hpath, Disk.create, hname, Except.map] at h
    | ok file =>
      simp only [hpath, Disk.create, hname, Except.map, Except.ok.injEq, Prod.mk.injEq] at h
      rw [← h.2, Disk.content?_change, Settings.logName?, hpath, Option.bind_some, hname]
      simp only [Except.toOption, Option.some.injEq, eq_comm]

theorem error_compileFilter {s : Settings} {e : StartupError} (h : compileFilter s = .error e) :
    e = .invalidFilter := by
  unfold compileFilter at h
  split at h
  · cases h
  · split at h <;> cases h
    rfl

theorem error_createLogFile {s : Settings} {d : Disk} {e : StartupError}
    (h : createLogFile s d = .error e) : ∃ path fault, e = .logFile path fault := by
  unfold createLogFile at h
  split at h
  · cases h
  · split at h <;> cases h
    exact ⟨_, _, rfl⟩

/-- A set-up that fails has either done nothing, or created its log file and nothing else. -/
theorem install_error_cases {s : Settings} {clock : Option (Ref Clock)} {x y : Facility}
    {e : StartupError} (h : install s clock x = (.done (.error e), y)) :
    ((e = .invalidFilter ∨ ∃ path fault, e = .logFile path fault) ∧ y = x) ∨
      (e = .invalidDirectives ∨ e = .alreadyInstalled) ∧
        ∃ log disk, createLogFile s x.disk = .ok (log, disk) ∧ y = { x with disk } := by
  unfold install at h
  split at h
  · next hfilter =>
    cases h
    exact .inl ⟨.inl (error_compileFilter hfilter), rfl⟩
  · split at h
    · next hlog =>
      cases h
      exact .inl ⟨.inr (error_createLogFile hlog), rfl⟩
    · next log disk hlog =>
      dsimp only at h
      split at h
      · cases h
        exact .inr ⟨.inl rfl, log, disk, hlog, rfl⟩
      · cases h
      · split at h
        · next directives _ _ =>
          -- The backend is installed, and what it then shows of itself is no failure.
          rcases hremarks : startupRemarks s _ with ⟨_ | _ | _, z⟩ <;> rw [hremarks] at h <;> cases h
        · cases h
          exact .inr ⟨.inr rfl, log, disk, hlog, rfl⟩

/-- A path that means a file gives a handle on it. -/
theorem createLogFile_of_resolve {s : Settings} {d : Disk} {path name : String}
    (hpath : s.logFile = some path) (hname : d.resolve path = .ok name) :
    createLogFile s d = .ok (some ⟨⟨name, 0⟩, s.background⟩, d.change name fun _ => #[]) := by
  simp only [createLogFile, hpath, Disk.create, hname, Except.map]

/-- A set-up that has created its log file and finds the directives malformed stops there. -/
theorem install_of_malformed {s : Settings} {clock : Option (Ref Clock)} {x : Facility}
    {filter : Option (String → Bool)} {log : Option LogFile} {disk : Disk}
    (hfilter : compileFilter s = .ok filter) (hlog : createLogFile s x.disk = .ok (log, disk))
    (hlist : Directive.list (x.directivesFor s.level) = .error .malformed) :
    install s clock x = (.done (.error .invalidDirectives), { x with disk }) := by
  have hsame : Directive.list (Facility.directivesFor { x with disk } s.level) = .error .malformed :=
    hlist
  simp only [install, hfilter, hlog, hsame]

/-- A set-up that has created its log file and read its directives stops where somebody takes events
already. -/
theorem install_of_installed {s : Settings} {clock : Option (Ref Clock)} {x : Facility}
    {filter : Option (String → Bool)} {log : Option LogFile} {disk : Disk} {ds : List Directive}
    (hfilter : compileFilter s = .ok filter) (hlog : createLogFile s x.disk = .ok (log, disk))
    (hlist : Directive.list (x.directivesFor s.level) = .ok ds) (htaken : x.subscriber ≠ .nobody) :
    install s clock x = (.done (.error .alreadyInstalled), { x with disk }) := by
  have hsame : Directive.list (Facility.directivesFor { x with disk } s.level) = .ok ds := hlist
  simp only [install, hfilter, hlog, hsame]

/-- **A set-up that fails touches nothing but its log file.** Let setting a facility up, with or without a
clock and whatever has been set up before, fail. Then the process is as it was, with its level, its
process-wide sink, its worker and its backend, and so is every file but the one that the settings ask to
be written to. That one is left alone as well if the category filter or the creation of the file has
failed; if the directives have, or if a backend was installed already, it is there and empty, whatever
it held. -/
theorem install_spares (s : Settings) (clock : Option (Ref Clock)) (x y : Facility) (e : StartupError)
    (h : install s clock x = (.done (.error e), y)) :
    y = { x with disk := y.disk } ∧
      (∀ name, y.disk.content? name =
        if (e = .invalidDirectives ∨ e = .alreadyInstalled) ∧ s.logName? x.disk = some name then some #[]
        else x.disk.content? name) := by
  rcases install_error_cases h with ⟨he, rfl⟩ | ⟨he, log, disk, hlog, rfl⟩
  · refine ⟨rfl, fun name => (if_neg fun hlate => ?_).symm⟩
    rcases he with rfl | ⟨path, fault, rfl⟩ <;> simp at hlate
  · refine ⟨rfl, fun name => ?_⟩
    rw [content?_createLogFile hlog]
    simp only [he, true_and]

theorem names_log : Disk.names "log" = ["log"] := by
  -- The path is walked letter by letter, as there is no slash in it.
  rw [Disk.names, String.splitOn, if_neg (by decide)]
  rw [String.splitOnAux, if_neg (by decide), if_neg (by decide)]
  rw [String.splitOnAux, if_neg (by decide), if_neg (by decide)]
  rw [String.splitOnAux, if_neg (by decide), if_neg (by decide)]
  rw [String.splitOnAux, if_pos (by decide)]
  decide

/-- A plain name means the file of that name. -/
theorem resolve_log (d : Disk) : d.resolve "log" = .ok "log" := by
  have hstart : (if "log".startsWith "/" then Disk.Standing.under [] else .here) = .here :=
    if_neg (by decide +kernel)
  rw [Disk.resolve, if_neg (by decide), if_neg (by decide), if_neg (by decide), hstart, names_log, Disk.walk,
    Disk.fileAt, if_neg (by decide +kernel), if_neg (by decide), if_neg (by decide), if_pos rfl]

/-- Directives in the surroundings that nobody can read: the level, the sink and the worker stay, and the
file of an earlier run is emptied. -/
theorem install_spares_all_but_the_file :
    let s : Settings := { Settings.standard with logFile := some "log", level := .trace }
    let x : Facility := start .nobody ⟨[("log", #[111, 108, 100]), ("notes", #[110])]⟩ "" (some "top=?")
    ∃ y, install s none x = (.done (.error .invalidDirectives), y) ∧
      y = { x with disk := y.disk } ∧ y.disk.content? "log" = some #[] ∧
        y.disk.content? "notes" = x.disk.content? "notes" := by
  intro s x
  have hlist : Directive.list (x.directivesFor s.level) = .error .malformed := by
    have hgiven : x.directivesFor s.level = "top=?" := by decide
    rw [hgiven]
    rfl
  have hcreated : createLogFile s x.disk = _ := createLogFile_of_resolve rfl (resolve_log x.disk)
  have hfails : install s none x = _ := install_of_malformed rfl hcreated hlist
  have hlogName : s.logName? x.disk = some "log" := by
    simp only [Settings.logName?, s, Option.bind_some, resolve_log, Except.toOption]
  obtain ⟨hkept, hfiles⟩ := install_spares s none x _ _ hfails
  refine ⟨_, hfails, hkept, ?_, ?_⟩
  · rw [hfiles, hlogName]
    rfl
  · rw [hfiles, hlogName]
    rfl

/-- A second set-up with the log file of the first is refused, and what the first has written is gone. -/
theorem refused_set_up_empties_file :
    let s : Settings := { Settings.standard with logFile := some "log", background := false }
    let b : Backend := ⟨[], ⟨.ofSettings s, .none, none⟩, true, some ⟨⟨"log", 6⟩, false⟩⟩
    let x : Facility := start (.backend b) ⟨[("log", #[102, 105, 114, 115, 116, 10])]⟩ "" none
    ∃ y, install s none x = (.done (.error .alreadyInstalled), y) ∧
      x.disk.content? "log" = some #[102, 105, 114, 115, 116, 10] ∧
        y.disk.content? "log" = some #[] ∧ y.disk.content? "log" ≠ x.disk.content? "log" := by
  intro s b x
  have hlist : Directive.list (x.directivesFor s.level) =
      .ok [⟨none, none, none, some .warn⟩, ⟨some Event.reportTarget, none, none, some .trace⟩] := by
    have hstandard : x.directivesFor s.level = "warn,simlog::report=trace" := by rfl
    rw [hstandard]
    rfl
  have hcreated : createLogFile s x.disk = _ := createLogFile_of_resolve rfl (resolve_log x.disk)
  have htaken : x.subscriber ≠ .nobody := by simp [x, start]
  exact ⟨_, install_of_installed rfl hcreated hlist htaken, rfl, rfl, by decide⟩

end Facility

end Logbook
