/-
# Settings and records as documents

What is written is read back, and how it is laid out plays no part: the fields may come in any order, with
blanks between the words, with escapes in the texts, and with members of other names among them. Settings
may leave fields out, which then have their standard values; a record may not. Neither may name a field
twice.

Key definitions: `Settings.only`, `Json.ReadsBack`.
Key theorems: `Settings.parse?_of_spells`, `Record.parse?_of_spells`, `Json.documents_read_back`.
-/
import Logbook.Proofs.Json.Fields
import Logbook.Proofs.Json.Reading
import Logbook.Record.Document
import Logbook.Settings.Document
import Mathlib.Tactic.Convert

namespace Logbook

open Json (Value Fields Words Spells)

/-! ### Values -/

namespace Json.Value

theorem level?_name (l : Level) : level? (.text l.name) = some l := by cases l <;> rfl

theorem word64?_natural (n : UInt64) : word64? (.natural n.toNat) = some n := by
  rw [natural, word64?, if_pos n.toNat_lt_size, UInt64.ofNat_toNat]

theorem word32?_natural (n : UInt32) : word32? (.natural n.toNat) = some n := by
  rw [natural, word32?, if_pos n.toNat_lt_size, UInt32.ofNat_toNat]

theorem flag?_flag (b : Bool) : flag? (.flag b) = some b := rfl

theorem text?_text (s : String) : text? (.text s) = some s := rfl

theorem textOrNull?_orNull (o : Option String) : textOrNull? (Settings.orNull o) = some o := by
  cases o <;> rfl

end Json.Value

/-! ### Settings -/

namespace Settings

/-- The settings with given names are kept, and the others have their standard values. -/
def only (names : List String) (x : Settings) : Settings where
  level := if "level" ∈ names then x.level else standard.level
  categoryWidth := if "category_width" ∈ names then x.categoryWidth else standard.categoryWidth
  wallTime := if "print_sys_time" ∈ names then x.wallTime else standard.wallTime
  simTime := if "print_sim_time" ∈ names then x.simTime else standard.simTime
  deltas := if "print_delta" ∈ names then x.deltas else standard.deltas
  severity := if "print_severity" ∈ names then x.severity else standard.severity
  colored := if "colored_output" ∈ names then x.colored else standard.colored
  logFile := if "log_file" ∈ names then x.logFile else standard.logFile
  categoryFilter := if "category_filter" ∈ names then x.categoryFilter else standard.categoryFilter
  background := if "log_async" ∈ names then x.background else standard.background
  noBroker := if "dont_create_broker" ∈ names then x.noBroker else standard.noBroker

theorem names_fields (x : Settings) : x.fields.map Prod.fst = fieldNames := rfl

theorem nodup_fieldNames : fieldNames.Nodup := by decide

/-- Only the names of fields count. -/
theorem only_congr {names others : List String}
    (h : ∀ name ∈ fieldNames, name ∈ names ↔ name ∈ others) (x : Settings) :
    x.only names = x.only others := by
  have hall : fieldNames =
      ["level", "category_width", "print_sys_time", "print_sim_time", "print_delta", "print_severity",
        "colored_output", "log_file", "category_filter", "log_async", "dont_create_broker"] := rfl
  rw [hall] at h
  simp only [List.forall_mem_cons] at h
  simp only [only, h]

theorem only_fieldNames (x : Settings) : x.only fieldNames = x := rfl

/-- Fields that are among those of settings give these settings, as far as they go. -/
theorem ofFields?_of_subset {x : Settings} {fs : Fields} (h : ∀ f ∈ fs, f ∈ x.fields) :
    ofFields? fs = some (x.only (fs.map Prod.fst)) := by
  have hnodup : (x.fields.map Prod.fst).Nodup := names_fields x ▸ nodup_fieldNames
  have optional {α : Type} (name : String) {v : Value} {read : Value → Option α} {a : α} (absent : α)
      (hread : read v = some a) (hv : x.fields.lookup name = some v) :=
    Fields.optional_of_subset hnodup h hv hread absent
  have level := optional "level" standard.level (Value.level?_name x.level) rfl
  have width := optional "category_width" standard.categoryWidth (Value.word64?_natural x.categoryWidth) rfl
  have wallTime := optional "print_sys_time" standard.wallTime (Value.flag?_flag x.wallTime) rfl
  have simTime := optional "print_sim_time" standard.simTime (Value.flag?_flag x.simTime) rfl
  have deltas := optional "print_delta" standard.deltas (Value.flag?_flag x.deltas) rfl
  have severity := optional "print_severity" standard.severity (Value.flag?_flag x.severity) rfl
  have colored := optional "colored_output" standard.colored (Value.flag?_flag x.colored) rfl
  have logFile := optional "log_file" standard.logFile (Value.textOrNull?_orNull x.logFile) rfl
  have filter :=
    optional "category_filter" standard.categoryFilter (Value.textOrNull?_orNull x.categoryFilter) rfl
  have background := optional "log_async" standard.background (Value.flag?_flag x.background) rfl
  have noBroker := optional "dont_create_broker" standard.noBroker (Value.flag?_flag x.noBroker) rfl
  rw [ofFields?, level, width, wallTime, simTime, deltas, severity, colored, logFile, filter, background,
    noBroker]
  rfl

/-- An object that names each field of settings at most once, and each with its value there, is read as
the settings that it names. -/
theorem parse?_of_spells {x : Settings} {ms : Fields} {s : String} (hs : Spells (.record ms) s)
    (hvalues : ∀ m ∈ ms, m.1 ∈ fieldNames → m ∈ x.fields)
    (honce : ∀ name ∈ fieldNames, (ms.map Prod.fst).count name ≤ 1) :
    parse? s = some (x.only (ms.map Prod.fst)) := by
  have hnames (name : String) (hname : name ∈ fieldNames) :
      name ∈ (ms.kept fieldNames).map Prod.fst ↔ name ∈ ms.map Prod.fst := Fields.mem_names_kept hname
  rw [parse?, Value.parse?_of_spells hs, Option.bind_some, ofDocument?, Value.fields?_record honce,
    Option.bind_some, ofFields?_of_subset (Fields.kept_subset hvalues), only_congr hnames]

/-- Settings that are written are read back. -/
theorem parse?_render (x : Settings) : parse? x.render = some x := by
  have hs : Spells (.record x.fields) x.render := Json.spells_render _
  have honce (name : String) (_ : name ∈ fieldNames) : (x.fields.map Prod.fst).count name ≤ 1 := by
    rw [names_fields]
    exact List.nodup_iff_count_le_one.mp nodup_fieldNames name
  rw [parse?_of_spells hs (fun _ hm _ => hm) honce, names_fields, only_fieldNames]

/-- An object that names a field twice is refused. -/
theorem parse?_of_repeated {ms : List (Words × Value)} {s name : String} (hs : Spells (.object ms) s)
    (hname : name ∈ fieldNames) (h : 2 ≤ (ms.map Prod.fst).count (.whole name)) : parse? s = none := by
  rw [parse?, Value.parse?_of_spells hs, Option.bind_some, ofDocument?, Value.fields?_of_repeated hname h,
    Option.bind_none]

end Settings

/-! ### Records -/

namespace Record

theorem severity?_word (s : Severity) : severity? (.text s.word) = some s := by cases s <;> rfl

theorem names_fields (r : Record) : r.fields.map Prod.fst = fieldNames := rfl

theorem nodup_fieldNames : fieldNames.Nodup := by decide

/-- Fields that are among those of a record and leave none of them out give the record. -/
theorem ofFields?_of_subset {r : Record} {fs : Fields} (h : ∀ f ∈ fs, f ∈ r.fields)
    (hall : ∀ name ∈ fieldNames, name ∈ fs.map Prod.fst) : ofFields? fs = some r := by
  have hnodup : (r.fields.map Prod.fst).Nodup := names_fields r ▸ nodup_fieldNames
  have required {α : Type} (name : String) {v : Value} {read : Value → Option α} {a : α}
      (hread : read v = some a) (hv : r.fields.lookup name = some v) (hname : name ∈ fieldNames) :=
    Fields.required_of_subset hnodup h hv hread (hall name hname)
  have severity := required "severity" (severity?_word r.severity) rfl (by decide)
  have category := required "category" (Value.text?_text r.category) rfl (by decide)
  have message := required "message" (Value.text?_text r.message) rfl (by decide)
  have verbosity := required "verbosity" (Value.word32?_natural r.verbosity.value) rfl (by decide)
  have file := required "file" (Value.text?_text r.site.file) rfl (by decide)
  have line := required "line" (Value.word32?_natural r.site.line) rfl (by decide)
  rw [ofFields?, severity, category, message, verbosity, file, line]
  rfl

/-- Fields that leave one of a record's out give no record. -/
theorem ofFields?_of_missing {fs : Fields} {name : String} (hname : name ∈ fieldNames)
    (h : name ∉ fs.map Prod.fst) : ofFields? fs = none := by
  have hlookup : fs.lookup name = none := Fields.lookup_eq_none h
  simp only [fieldNames, List.mem_cons, List.not_mem_nil, or_false] at hname
  rcases hname with rfl | rfl | rfl | rfl | rfl | rfl <;> simp [ofFields?, Fields.required, hlookup]

/-- An object that names each field of a record once, with its value there, is read as the record. -/
theorem parse?_of_spells {r : Record} {ms : Fields} {s : String} (hs : Spells (.record ms) s)
    (hvalues : ∀ m ∈ ms, m.1 ∈ fieldNames → m ∈ r.fields)
    (honce : ∀ name ∈ fieldNames, (ms.map Prod.fst).count name = 1) : parse? s = some r := by
  have hall : ∀ name ∈ fieldNames, name ∈ (ms.kept fieldNames).map Prod.fst := fun name hname => by
    rw [Fields.mem_names_kept hname, ← List.count_pos_iff, honce name hname]
    decide
  have hdistinct : ∀ name ∈ fieldNames, (ms.map Prod.fst).count name ≤ 1 :=
    fun name hname => Nat.le_of_eq (honce name hname)
  rw [parse?, Value.parse?_of_spells hs, Option.bind_some, ofDocument?, Value.fields?_record hdistinct,
    Option.bind_some, ofFields?_of_subset (Fields.kept_subset hvalues) hall]

/-- A record that is written is read back. -/
theorem parse?_render (r : Record) : parse? r.render = some r := by
  have hs : Spells (.record r.fields) r.render := Json.spells_render _
  have honce (name : String) (hname : name ∈ fieldNames) : (r.fields.map Prod.fst).count name = 1 := by
    rw [names_fields]
    exact List.count_eq_one_of_mem nodup_fieldNames hname
  exact parse?_of_spells hs (fun _ hm _ => hm) honce

/-- An object that names a field twice, or leaves one out, is refused. -/
theorem parse?_of_miscounted {ms : List (Words × Value)} {s name : String} (hs : Spells (.object ms) s)
    (hname : name ∈ fieldNames) (h : (ms.map Prod.fst).count (.whole name) ≠ 1) : parse? s = none := by
  rw [parse?, Value.parse?_of_spells hs, Option.bind_some, ofDocument?]
  by_cases htwice : 2 ≤ (ms.map Prod.fst).count (.whole name)
  · rw [Value.fields?_of_repeated hname htwice, Option.bind_none]
  · cases hfs : (Value.object ms).fields? fieldNames with
    | none => rfl
    | some fs =>
      obtain ⟨hcount, honce⟩ := Value.count_of_fields? hname hfs
      have hmissing : (fs.map Prod.fst).count name = 0 := by omega
      exact ofFields?_of_missing hname (List.count_eq_zero.mp hmissing)

end Record

namespace Json

/-- What is written as objects with some named fields is read back, however it is laid out. A field may be
given as `often` as that many times; `part` is what is read where only fields of some names are given. -/
structure ReadsBack {α : Type} (parse? : String → Option α) (render : α → String) (fields : α → Fields)
    (names : List String) (often : Nat → Prop) (part : List String → α → α) : Prop where
  /-- What is written is read back as it was. -/
  written : ∀ a : α, parse? (render a) = some a
  /-- So is any spelling of an object in which fields have their values and are given as often as they may be,
  with its members in any order and members of other names among them. -/
  laidOut : ∀ (a : α) (ms : Fields) (s : String), Spells (.record ms) s →
    (∀ m ∈ ms, m.1 ∈ names → m ∈ fields a) → (∀ name ∈ names, often ((ms.map Prod.fst).count name)) →
    parse? s = some (part (ms.map Prod.fst) a)
  /-- An object that gives a field as often as it may not be given is refused. -/
  refused : ∀ (ms : List (Words × Value)) (s name : String), Spells (.object ms) s → name ∈ names →
    ¬ often ((ms.map Prod.fst).count (.whole name)) → parse? s = none

/-- **Documents are read back, however they are laid out.** Settings may leave fields out, which then have
their standard values, and a record may not; neither may name a field twice. -/
theorem documents_read_back :
    ReadsBack Settings.parse? Settings.render Settings.fields Settings.fieldNames (· ≤ 1) Settings.only ∧
      ReadsBack Record.parse? Record.render Record.fields Record.fieldNames (· = 1) fun _ r => r where
  left :=
    { written := Settings.parse?_render
      laidOut := fun _ _ _ => Settings.parse?_of_spells
      refused := fun _ _ _ hs hname h => Settings.parse?_of_repeated hs hname (Nat.lt_of_not_le h) }
  right :=
    { written := Record.parse?_render
      laidOut := fun _ _ _ => Record.parse?_of_spells
      refused := fun _ _ _ => Record.parse?_of_miscounted }

/-- Settings with a blank, an escape and a member of another name, the fields of a record in the opposite
order behind such a member, and fields that are named twice. -/
theorem documents_read_back_with_other_members :
    let members : Fields :=
      [("log_file", .text ""), ("x", .list [.numeral .other, .null]), ("level", .text "ERROR")]
    let given := "\x7b\"log_file\":\"\", \"x\":[1.5,null],\"level\":\"\\u0045RROR\"\x7d"
    let r : Record := ⟨.warning, "bus", "a \"b\"\n", .medium, ⟨"bus", 1⟩⟩
    let turned : Fields := ("x", .null) :: r.fields.reverse
    let twice : List (Words × Value) :=
      [(.whole "line", .natural 1), (.whole "level", .null), (.whole "level", .null), (.whole "line", .null)]
    Spells (.record members) given ∧
      Settings.parse? given = some { Settings.standard with level := .error, logFile := some "" } ∧
      Record.parse? (Value.record turned).render = some r ∧
      Record.parse? (Value.object twice).render = none ∧
      Settings.parse? (Value.object twice).render = none := by
  intro members given r turned twice
  have hgiven : Spells (.record members) given := by
    have hnumber : Numeral.Spelt .other ([] ++ Nat.toDigits 10 1 ++ ['.', '5'] ++ []) :=
      .other (.inl rfl) 1 (.digits ⟨by decide, List.forall_mem_singleton.mpr rfl⟩) .none (by decide)
    have hunit : (Stroke.unit 0x45).Spelt ['\\', 'u', '0', '0', '4', '5'] := .unit rfl rfl
    have hr : (Stroke.char 'R').Spelt ['R'] := .plain (by decide) (by decide) (by decide)
    have ho : (Stroke.char 'O').Spelt ['O'] := .plain (by decide) (by decide) (by decide)
    have hlevel : (Words.ofStrokes [.unit 0x45, .char 'R', .char 'R', .char 'O', .char 'R']).Spelt _ :=
      .quoted (.cons hunit (.cons hr (.cons hr (.cons ho (.cons hr .nil)))))
    have hspaced := Spaced.word .openObject (.word (.words (Words.spelt_spell (.whole "log_file")))
      (.word .colon (.word (.words (Words.spelt_spell (.whole ""))) (.word .comma
      (.blank (by decide : ' ' ∈ blanks) (.word (.words (Words.spelt_spell (.whole "x")))
      (.word .colon (.word .openList (.word (.numeral hnumber) (.word .comma (.word .null
      (.word .closeList (.word .comma (.word (.words (Words.spelt_spell (.whole "level")))
      (.word .colon (.word (.words hlevel) (.word .closeObject .nil)))))))))))))))))
    unfold Spells
    convert hspaced using 1
    · rfl
    · decide
  obtain ⟨hsettings, hrecord⟩ := documents_read_back
  refine ⟨hgiven, ?_, ?_, ?_, ?_⟩
  · refine hsettings.laidOut { Settings.standard with level := .error, logFile := some "" } members given hgiven
      (fun m hm hname => ?_) (by decide)
    simp only [members, List.mem_cons, List.not_mem_nil, or_false] at hm
    rcases hm with rfl | rfl | rfl
    · simp [Settings.fields, Settings.orNull]
    · exact absurd hname (by decide)
    · exact List.mem_cons_self
  · refine hrecord.laidOut r turned _ (spells_render _) (fun m hm hname => ?_) (by decide)
    rcases List.mem_cons.mp hm with rfl | hm
    · exact absurd hname (by decide)
    · exact List.mem_reverse.mp hm
  · exact hrecord.refused twice _ "line" (spells_render _) (by decide) (by decide)
  · exact hsettings.refused twice _ "level" (spells_render _) (by decide) (by decide)

end Json

end Logbook
