/-
# The levels of single categories take effect

When the facility is set up, the demo gives categories their levels, one after the other in the order of the
arguments. In the registry that the workload then runs with, the threshold for a category is that of the
level given last to the longest name that covers it and was given one at all, and that of the global level
where there is no such name (`verbosityFor_configure`).

Key definitions: `LastGiven`, `Options.Decides`.
Key theorems: `Facility.registry_of_install`, `lastWord_overrides`, `verbosityFor_configure`,
`levels_of_categories`.
-/
import Mathlib.Data.List.Induction
import Logbook.Proofs.Demo.Arguments
import Logbook.Proofs.Demo.Session
import Logbook.Proofs.Registry.History

namespace Logbook

namespace Facility

/-- A set-up that succeeds has changed nothing of the registry but its level. -/
theorem registry_of_install {s : Settings} {clock : Option (Ref Clock)} {x y : Facility}
    (h : install s clock x = (.done (.ok ()), y)) : y.registry = x.registry.setLevel s.level := by
  unfold install at h
  split at h
  · simp at h
  · next filter _ =>
    split at h
    · simp at h
    · next log disk _ =>
      dsimp only at h
      split at h
      · simp at h
      · simp at h
      · next ds _ =>
        split at h
        · have hremarks := startupRemarks_keeps s (x.equipped s clock filter log disk ds)
          obtain ⟨-, hy⟩ := Prod.mk.inj h
          rw [← hy]
          exact congrArg Bearings.registry hremarks
        · simp at h

end Facility

namespace Demo

open Registry (Follows lastWord lastLevel)
open Scenario (RegistryAction)

/-- A level was given to a name, and none was given to it later. -/
def LastGiven (name : String) (l : Level) (cs : List (String × Level)) : Prop :=
  ∃ before later, cs = before ++ (name, l) :: later ∧ ∀ c ∈ later, c.1 ≠ name

/-- The threshold for a category that options ask for: that of the level given last to the longest name that
covers the category and was given one, or that of the global level, if there is no such name. -/
def Options.Decides (o : Options) (name : String) (v : Verbosity) : Prop :=
  (∃ a l, Category.Covers a name ∧ LastGiven a l o.categories ∧ v = l.verbosity ∧
      ∀ b, Category.Covers b name → a.length < b.length → ∀ c ∈ o.categories, c.1 ≠ b) ∨
    (∀ a, Category.Covers a name → ∀ c ∈ o.categories, c.1 ≠ a) ∧ v = o.level.verbosity

/-- What is done with a registry to give categories their levels. -/
def overrides (cs : List (String × Level)) : List RegistryAction :=
  cs.map fun c => .setCategoryLevel c.1 c.2

theorem overrides_concat (cs : List (String × Level)) (c : String × Level) :
    overrides (cs ++ [c]) = overrides cs ++ [.setCategoryLevel c.1 c.2] := List.map_append

/-! ### The last level -/

theorem not_lastGiven_nil (name : String) (l : Level) : ¬ LastGiven name l [] := by
  rintro ⟨before, later, hcs, -⟩
  simp at hcs

theorem lastGiven_concat {name : String} {l : Level} {cs : List (String × Level)} {c : String × Level} :
    LastGiven name l (cs ++ [c]) ↔ if c.1 = name then c.2 = l else LastGiven name l cs := by
  constructor
  · rintro ⟨before, later, hcs, hlater⟩
    rcases List.eq_nil_or_concat later with rfl | ⟨later, d, rfl⟩
    · obtain ⟨-, rfl⟩ := List.append_singleton_inj.mp hcs
      rw [if_pos rfl]
    · have hsplit : cs ++ [c] = (before ++ (name, l) :: later) ++ [d] := by simpa using hcs
      obtain ⟨rfl, rfl⟩ := List.append_singleton_inj.mp hsplit
      rw [if_neg (hlater c (by simp))]
      exact ⟨before, later, rfl, fun d hd => hlater d (by simp [hd])⟩
  · intro h
    split at h
    · next hc =>
      obtain ⟨name', l'⟩ := c
      obtain rfl : name' = name := hc
      obtain rfl : l' = l := h
      exact ⟨cs, [], rfl, by simp⟩
    · next hc =>
      obtain ⟨before, later, rfl, hlater⟩ := h
      refine ⟨before, later ++ [c], by simp, fun d hd => ?_⟩
      rcases List.mem_append.mp hd with hd | hd
      · exact hlater d hd
      · rwa [List.mem_singleton.mp hd]

/-- The last word on a name is the level that was given to it last. -/
theorem lastWord_overrides {cs : List (String × Level)} {name : String} {v : Verbosity} :
    lastWord (overrides cs) name = some v ↔ ∃ l, LastGiven name l cs ∧ v = l.verbosity := by
  induction cs using List.reverseRecOn with
  | nil => simp [not_lastGiven_nil, overrides, lastWord]
  | append_singleton cs c ih =>
    rw [overrides_concat, Registry.lastWord_concat]
    simp only [lastGiven_concat, Registry.saysOf]
    by_cases hc : c.1 = name
    · simp [hc, eq_comm]
    · simpa [hc] using ih

theorem lastWord_overrides_eq_none {cs : List (String × Level)} {name : String} :
    lastWord (overrides cs) name = none ↔ ∀ c ∈ cs, c.1 ≠ name := by
  induction cs using List.reverseRecOn with
  | nil => simp [overrides, lastWord]
  | append_singleton cs c ih =>
    rw [overrides_concat, Registry.lastWord_concat, Registry.saysOf]
    by_cases hc : c.1 = name
    · exact iff_of_false (by simp [hc]) fun hnowhere => hnowhere c (by simp) hc
    · simpa [hc, or_imp, forall_and] using ih

theorem lastLevel_overrides (l : Level) (cs : List (String × Level)) : lastLevel l (overrides cs) = l := by
  induction cs using List.reverseRecOn with
  | nil => rfl
  | append_singleton cs c ih =>
    rw [overrides_concat, Registry.lastLevel_concat]
    exact ih

/-! ### Thresholds -/

theorem Options.level_settings (o : Options) : o.settings.level = o.level := by
  unfold Options.settings
  cases o.logFile <;> cases o.filter <;> rfl

/-- The demo gives categories their levels one after the other; the length of cycles has no part in
thresholds. -/
theorem verbosityFor_configure_eq (o : Options) (x : Facility) (category : Option String) :
    (configure o x).registry.verbosityFor category =
      ((overrides o.categories).foldl (fun r a => a.change r) x.registry).verbosityFor category := by
  rw [overrides, List.foldl_map, configure]
  cases o.cycle with
  | none => rfl
  | some n =>
    dsimp only
    split <;> rfl

/-- In a registry without levels for categories, those that the options give decide. -/
theorem verbosityFor_configure {o : Options} {x : Facility} (hlevel : x.registry.levelCode = o.level.code)
    (hnone : x.registry.overrides = []) (hflag : x.registry.overridden = false) {name : String}
    (hname : name ≠ "") {v : Verbosity} :
    (configure o x).registry.verbosityFor (some name) = v ↔ o.Decides name v := by
  have hstart : Follows o.level [] x.registry := ⟨hlevel, fun n => by rw [hnone]; rfl, by rw [hflag, hnone]; rfl⟩
  have hall := hstart.run (overrides o.categories)
  rw [List.nil_append] at hall
  have hgiven : (∃ a l, Category.Covers a name ∧ LastGiven a l o.categories ∧ v = l.verbosity ∧
      ∀ b, Category.Covers b name → a.length < b.length → ∀ c ∈ o.categories, c.1 ≠ b) ↔
      (Category.lineage name).findSome? (lastWord (overrides o.categories)) = some v := by
    simp only [Category.findSome?_lineage_eq_some, lastWord_overrides, lastWord_overrides_eq_none]
    constructor
    · rintro ⟨a, l, hcovers, hlast, hv, hlonger⟩
      exact ⟨a, hcovers, ⟨l, hlast, hv⟩, hlonger⟩
    · rintro ⟨a, hcovers, ⟨l, hlast, hv⟩, hlonger⟩
      exact ⟨a, l, hcovers, hlast, hv, hlonger⟩
  have hnowhere : (∀ a, Category.Covers a name → ∀ c ∈ o.categories, c.1 ≠ a) ↔
      (Category.lineage name).findSome? (lastWord (overrides o.categories)) = none := by
    simp only [Category.findSome?_lineage_eq_none, lastWord_overrides_eq_none]
  rw [verbosityFor_configure_eq, hall.verbosityFor_eq hname, hall.verbosity_eq, lastLevel_overrides,
    Options.Decides, hgiven, hnowhere]
  cases (Category.lineage name).findSome? (lastWord (overrides o.categories)) <;> simp [eq_comm]

/-- **Levels of categories are read by their grammar, and the last one for the nearest name decides.** A text
is read as a category and its level exactly if it gives that category that level; every other text is an
error. What arguments ask for has the levels of categories that their texts give, in the order of these, and
the global level of the only text for it, or a warning level if there is none. Where the facility can be set
up and its registry has no levels for categories yet, the workload runs with one that has, for every category
with a name, the threshold that these levels come to. -/
theorem levels_of_categories :
    (∀ text category l, Options.parseOverride text = .ok (category, l) ↔ Gives text category l) ∧
      (∀ text, (∀ category l, ¬ Gives text category l) → ∃ e, Options.parseOverride text = .error e) ∧
      (∀ args o, Request.ofArguments args = .run o →
        List.Forall₂ (fun text c => Gives text c.1 c.2) (textsOf .category (Request.given none args))
          o.categories ∧
        ((textsOf .level (Request.given none args) = [] ∧ o.level = .warning) ∨
          ∃ text, textsOf .level (Request.given none args) = [text] ∧
            Level.parseAnyCase text = .ok o.level)) ∧
      ∀ (o : Options) (x y : Facility), x.registry.overrides = [] → x.registry.overridden = false →
        Facility.install o.settings (some (x.clocks.insert .start).1) (furnished x) = (.done (.ok ()), y) →
        session o x =
            Act.ensure (simulate (x.clocks.insert .start).1 (x.streams.insert .console).1 o.cycles >>= fun _ =>
              pure (.ok ())) (Act.modify Facility.dismissWorker) (configure o y) ∧
          ∀ name v, name ≠ "" →
            ((configure o y).registry.verbosityFor (some name) = v ↔ o.Decides name v) := by
  refine ⟨fun text category l => Options.parseOverride_eq_ok, fun text hnone => ?_, fun args o hread => ?_,
    fun o x y hnone hflag hinstall => ⟨session_of_install hinstall, fun name v hname => ?_⟩⟩
  · cases hread : Options.parseOverride text with
    | error e => exact ⟨e, rfl⟩
    | ok c => exact absurd (Options.parseOverride_eq_ok.mp hread) (hnone c.1 c.2)
  · have htakes := Progress.takes_of_read hread
    obtain ⟨cs, hcs, hgives⟩ := htakes.categories
    obtain rfl : o.categories = cs := hcs
    refine ⟨hgives, ?_⟩
    rcases htakes.level with hnone | ⟨-, hone⟩
    · exact .inl hnone
    · exact .inr hone
  · have hregistry : y.registry = x.registry.setLevel o.level := by
      rw [Facility.registry_of_install hinstall, Options.level_settings]
      rfl
    refine verbosityFor_configure ?_ ?_ ?_ hname
    · rw [hregistry]
      rfl
    · rw [hregistry]
      exact hnone
    · rw [hregistry]
      exact hflag

/-- Two levels for one category, the last of which silences what is below it; a name with blanks around it,
which is another one than without them; and texts that give no category a level. -/
theorem levels_of_categories_below_a_parent :
    let args := ["--category", "top.cpu=debug", "--category= top =\u2003tRaCeAll ", "--level=Info",
      "--category=top.cpu= none"]
    let o : Options := { Options.standard with
      level := .info
      categories := [("top.cpu", .debug), (" top ", .traceAll), ("top.cpu", .off)] }
    let x := Facility.start .nobody ⟨[]⟩ "" none
    Request.ofArguments args = .run o ∧
      List.Forall₂ (fun text c => Gives text c.1 c.2)
        ["top.cpu=debug", " top =\u2003tRaCeAll ", "top.cpu= none"] o.categories ∧
      Level.parseAnyCase "Info" = .ok o.level ∧
      (∃ e, Options.parseOverride "top.cpu" = .error e) ∧
      (∃ e, Options.parseOverride "=debug" = .error e) ∧
      (∃ e, Options.parseOverride "top=cpu=debug" = .error e) ∧
      ∃ y, Facility.install o.settings (some (x.clocks.insert .start).1) (furnished x) = (.done (.ok ()), y) ∧
        (configure o y).registry.verbosityFor (some "top.cpu.alu") = Level.off.verbosity ∧
        (configure o y).registry.verbosityFor (some " top .bus") = Level.traceAll.verbosity ∧
        (configure o y).registry.verbosityFor (some "top") = Level.info.verbosity := by
  intro args o x
  obtain ⟨hgrammar, hothers, hread, heffect⟩ := levels_of_categories
  have hargs : Request.ofArguments args = .run o := rfl
  obtain ⟨hgives, hlevel⟩ := hread args o hargs
  have hinfo : textsOf .level (Request.given none args) = ["Info"] := rfl
  have hnothing {text : String} {e : OverrideError} (hfails : Options.parseOverride text = .error e)
      (category : String) (l : Level) : ¬ Gives text category l := by
    rw [← hgrammar, hfails]
    exact nofun
  let ds : List Directive :=
    [⟨none, none, none, some .info⟩, ⟨some Event.reportTarget, none, none, some .trace⟩]
  have hlist : Directive.list ((furnished x).directivesFor o.settings.level) = .ok ds := by
    have hdirectives : (furnished x).directivesFor o.settings.level = "info,simlog::report=trace" := rfl
    rw [hdirectives]
    rfl
  obtain ⟨y, hinstall, -⟩ := Facility.install_of_fits (x := furnished x) (some (x.clocks.insert .start).1)
    rfl rfl hlist rfl rfl (by decide)
  obtain ⟨-, hdecides⟩ := heffect o x y rfl rfl hinstall
  refine ⟨hargs, hgives, ?_, hothers _ (hnothing rfl), hothers _ (hnothing rfl), hothers _ (hnothing rfl), y,
    hinstall, (hdecides _ _ (by decide)).mpr ?_, (hdecides _ _ (by decide)).mpr ?_,
    (hdecides _ _ (by decide)).mpr ?_⟩
  · rcases hlevel with ⟨hnone, -⟩ | ⟨text, htext, hparse⟩
    · simp [hinfo] at hnone
    · rw [hinfo] at htext
      rwa [(List.cons.inj htext).1]
  · refine .inl ⟨"top.cpu", .off, .inr ⟨"alu".toList, by decide⟩,
      ⟨o.categories.take 2, o.categories.drop 3, rfl, by decide⟩, rfl, ?_⟩
    intro b hb
    have hlineage : ∀ a ∈ Category.lineage "top.cpu.alu",
        "top.cpu".length < a.length → ∀ c ∈ o.categories, c.1 ≠ a := by decide
    exact hlineage b (Category.mem_lineage.mpr hb)
  · refine .inl ⟨" top ", .traceAll, .inr ⟨"bus".toList, by decide⟩,
      ⟨o.categories.take 1, o.categories.drop 2, rfl, by decide⟩, rfl, ?_⟩
    intro b hb
    have hlineage : ∀ a ∈ Category.lineage " top .bus",
        " top ".length < a.length → ∀ c ∈ o.categories, c.1 ≠ a := by decide
    exact hlineage b (Category.mem_lineage.mpr hb)
  · refine .inr ⟨fun a ha => ?_, rfl⟩
    have hlineage : ∀ a ∈ Category.lineage "top", ∀ c ∈ o.categories, c.1 ≠ a := by decide
    exact hlineage a (Category.mem_lineage.mpr ha)

end Demo

end Logbook
