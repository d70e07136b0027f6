/-
# What the arguments of the demo tell it of levels

The level of a single category is a text with an equals sign in it. What stands before the first one is the
name of the category, as it is, and behind it stands the name of a level, for which neither letter case nor
the blanks around it matter (`Options.parseOverride_eq_ok`). Arguments hand their texts on in order, so that
the levels of categories are those of all the texts for them, and the global level is that of the only text
for it, if there is one.

Key definitions: `Gives`, `Request.given`, `textsOf`, `Progress.Takes`.
Key theorems: `splitEquals_eq_some`, `Options.parseOverride_eq_ok`, `Progress.read_cons`,
`Progress.takes_of_read`, `Progress.Takes.categories`, `Progress.Takes.level`.
-/
import Logbook.Demo.Options
import Logbook.Proofs.Level.AnyCase

namespace Logbook.Demo

open Text (Trims SameLetters)

/-! ### The texts -/

/-- A text gives a category a level: it is the name of the category, which is not empty and has no equals
sign, then an equals sign, and then the name of the level up to letter case, among blanks. -/
structure Gives (text category : String) (l : Level) : Prop where
  named : category ≠ ""
  plain : '=' ∉ category.toList
  parts : ∃ right word, text = category ++ "=" ++ right ∧ Trims right.toList word ∧
    SameLetters word l.name.toList

theorem splitEquals_append {before : List Char} (h : '=' ∉ before) (behind : List Char) :
    splitEquals (before ++ '=' :: behind) = some (before, behind) := by
  induction before with
  | nil => rfl
  | cons c cs ih =>
    have hc : c ≠ '=' := Ne.symm (List.ne_of_not_mem_cons h)
    rw [List.cons_append, splitEquals, if_neg hc, ih (List.not_mem_of_not_mem_cons h)]
    rfl

/-- A text is cut at its first equals sign. -/
theorem splitEquals_eq_some {cs before behind : List Char} :
    splitEquals cs = some (before, behind) ↔ cs = before ++ '=' :: behind ∧ '=' ∉ before := by
  constructor
  · intro h
    induction cs generalizing before with
    | nil => simp [splitEquals] at h
    | cons c cs ih =>
      rw [splitEquals] at h
      split at h
      · next hc =>
        obtain ⟨rfl, rfl⟩ : [] = before ∧ cs = behind := by simpa using h
        exact ⟨by rw [hc]; rfl, List.not_mem_nil⟩
      · next hc =>
        obtain ⟨⟨before', behind'⟩, hrest, heq⟩ := Option.map_eq_some_iff.mp h
        obtain ⟨rfl, rfl⟩ : c :: before' = before ∧ behind' = behind := by simpa using heq
        obtain ⟨hcs, hplain⟩ := ih hrest
        exact ⟨congrArg (c :: ·) hcs, List.not_mem_cons_of_ne_of_not_mem (Ne.symm hc) hplain⟩
  · rintro ⟨rfl, hplain⟩
    exact splitEquals_append hplain behind

theorem splitEquals_toList_eq_some {text before behind : String} :
    splitEquals text.toList = some (before.toList, behind.toList) ↔
      text = before ++ "=" ++ behind ∧ '=' ∉ before.toList := by
  rw [splitEquals_eq_some, ← String.toList_inj]
  simp

/-- What is read has a name before its first equals sign, and behind it what is read as a level. -/
theorem Options.parseOverride_eq_ok_iff_split {text category : String} {l : Level} :
    Options.parseOverride text = .ok (category, l) ↔
      category ≠ "" ∧ ∃ right : String,
        splitEquals text.toList = some (category.toList, right.toList) ∧ Level.parseAnyCase right = .ok l := by
  rw [Options.parseOverride]
  cases splitEquals text.toList with
  | none => simp
  | some cut =>
    obtain ⟨before, behind, rfl⟩ : ∃ before behind : String, cut = (before.toList, behind.toList) :=
      ⟨.ofList cut.1, .ofList cut.2, by simp only [String.toList_ofList]⟩
    have hcut : (∃ right : String, some (before.toList, behind.toList) = some (category.toList, right.toList) ∧
        Level.parseAnyCase right = .ok l) ↔ before = category ∧ Level.parseAnyCase behind = .ok l := by
      simp [String.toList_inj, and_assoc]
    rw [hcut]
    dsimp only
    rw [String.ofList_toList, String.ofList_toList]
    by_cases hbefore : before = ""
    · refine iff_of_false (by simp [hbefore]) ?_
      rintro ⟨hnamed, rfl, -⟩
      exact hnamed hbefore
    · rw [if_neg (by simpa using hbefore)]
      cases Level.parseAnyCase behind with
      | error e => simp
      | ok l' =>
        rw [Except.ok.injEq, Except.ok.injEq, Prod.mk.injEq]
        constructor
        · rintro ⟨rfl, rfl⟩
          exact ⟨hbefore, rfl, rfl⟩
        · exact And.right

/-- Exactly the texts that give a category a level are read. -/
theorem Options.parseOverride_eq_ok {text category : String} {l : Level} :
    Options.parseOverride text = .ok (category, l) ↔ Gives text category l := by
  simp only [Options.parseOverride_eq_ok_iff_split, splitEquals_toList_eq_some, Level.parseAnyCase_eq_ok]
  constructor
  · rintro ⟨hnamed, right, ⟨htext, hplain⟩, word, htrims, hsame⟩
    exact ⟨hnamed, hplain, right, word, htext, htrims, hsame⟩
  · rintro ⟨hnamed, hplain, right, word, htext, htrims, hsame⟩
    exact ⟨hnamed, right, ⟨htext, hplain⟩, word, htrims, hsame⟩

/-! ### The arguments -/

/-- The options that arguments give a value, with their texts, in order; `wanted` is an option that waits for
its value. -/
def Request.given (wanted : Option Valued) : List String → List (Valued × String)
  | [] => []
  | arg :: args =>
    match wanted, Looks.of arg with
    | some v, _ => (v, arg) :: given none args
    | none, .long name (some text) =>
      match Valued.names.lookup name with
      | some v => (v, text) :: given none args
      | none => []
    | none, .long name none => given (Valued.names.lookup name) args
    | none, _ => []

/-- The texts that one option was given. -/
def textsOf (v : Valued) (given : List (Valued × String)) : List String :=
  (given.filter fun g => g.1 = v).map Prod.snd

theorem textsOf_cons (v w : Valued) (text : String) (given : List (Valued × String)) :
    textsOf v ((w, text) :: given) = if w = v then text :: textsOf v given else textsOf v given := by
  rw [textsOf, List.filter_cons]
  by_cases h : w = v <;> simp [h, textsOf]

/-- A value is a level, the level of a category, or has nothing to do with either. -/
theorem Options.assign?_cases {v : Valued} {text : String} {o o' : Options} (h : o.assign? v text = some o') :
    (v = .level ∧ ∃ l, Level.parseAnyCase text = .ok l ∧ o' = { o with level := l }) ∨
      (v = .category ∧ ∃ c, Options.parseOverride text = .ok c ∧
        o' = { o with categories := o.categories ++ [c] }) ∨
      v ≠ .level ∧ v ≠ .category ∧ o'.level = o.level ∧ o'.categories = o.categories := by
  have hvalue {ε α : Type} {read : Except ε α} {f : α → Options} (hread : read.toOption.map f = some o') :
      ∃ x, read = .ok x ∧ o' = f x := by
    cases read with
    | error e => simp [Except.toOption] at hread
    | ok x => exact ⟨x, rfl, by simpa [Except.toOption, eq_comm] using hread⟩
  cases v with
  | level => exact .inl ⟨rfl, hvalue h⟩
  | category => exact .inr (.inl ⟨rfl, hvalue h⟩)
  | logFile =>
    rw [Options.assign?] at h
    split at h
    · simp at h
    · obtain rfl := Option.some.inj h
      exact .inr (.inr ⟨by decide, by decide, rfl, rfl⟩)
  | filter =>
    obtain rfl := Option.some.inj h
    exact .inr (.inr ⟨by decide, by decide, rfl, rfl⟩)
  | categoryWidth | cycle | cycles =>
    obtain ⟨n, -, rfl⟩ := Option.map_eq_some_iff.mp h
    exact .inr (.inr ⟨by decide, by decide, rfl, rfl⟩)

namespace Progress

/-- From some progress, values are taken one after the other, and options that stand alone among them, and
this comes to some options. -/
inductive Takes : Progress → List (Valued × String) → Options → Prop where
  | nothing (r : Progress) : Takes r [] r.options
  | value {r r' : Progress} {v : Valued} {text : String} {given : List (Valued × String)} {o : Options} :
    r.give? v text = some r' → Takes r' given o → Takes r ((v, text) :: given) o
  | alone {r r' : Progress} {s : Switch} {given : List (Valued × String)} {o : Options} :
    r.turnOn? s = some r' → Takes r' given o → Takes r given o

theorem give?_eq_some {r r' : Progress} {v : Valued} {text : String} :
    r.give? v text = some r' ↔
      v ∉ r.valued ∧ ∃ o, r.options.assign? v text = some o ∧
        r' = { r with options := o, valued := if v = .category then r.valued else v :: r.valued } := by
  rw [give?]
  by_cases hv : v ∈ r.valued
  · simp [hv]
  · have hnew : r.valued.contains v = false := by simpa using hv
    rw [hnew, if_neg Bool.false_ne_true, Option.map_eq_some_iff]
    simp [hv, eq_comm]

theorem turnOn?_keeps {r r' : Progress} {s : Switch} (h : r.turnOn? s = some r') :
    r'.valued = r.valued ∧ r'.options.categories = r.options.categories ∧
      r'.options.level = r.options.level := by
  rw [turnOn?] at h
  split at h
  · simp at h
  · obtain rfl := Option.some.inj h
    cases s <;> exact ⟨rfl, rfl, rfl⟩

/-- One argument that is read is the value of the option that waits for one, the end of the options, an option
with its value or one that waits for it, or an option that stands alone. -/
theorem read_cons {r : Progress} {wanted : Option Valued} {arg : String} {args : List String} {o : Options}
    (h : Request.read r wanted (arg :: args) = .run o) :
    (∃ v r', wanted = some v ∧ r.give? v arg = some r' ∧ Request.read r' none args = .run o) ∨
      wanted = none ∧
        ((Looks.of arg = .ending ∧ r.options = o) ∨
          (∃ name text v r', Looks.of arg = .long name (some text) ∧ Valued.names.lookup name = some v ∧
            r.give? v text = some r' ∧ Request.read r' none args = .run o) ∨
          (∃ name v, Looks.of arg = .long name none ∧ Valued.names.lookup name = some v ∧
            Request.read r (some v) args = .run o) ∨
          ∃ name s r', Looks.of arg = .long name none ∧ Valued.names.lookup name = none ∧
            r.turnOn? s = some r' ∧ Request.read r' none args = .run o) := by
  unfold Request.read at h
  cases wanted with
  | some v =>
    cases hlooks : Looks.of arg with
    | plain =>
      simp only [hlooks] at h
      split at h
      · next r' hgive => exact .inl ⟨v, r', rfl, hgive, h⟩
      · simp at h
    | _ => simp [hlooks] at h
  | none =>
    refine .inr ⟨rfl, ?_⟩
    cases hlooks : Looks.of arg with
    | ending =>
      simp only [hlooks] at h
      split at h
      · exact .inl ⟨rfl, Request.run.inj h⟩
      · simp at h
    | plain => simp [hlooks] at h
    | short c =>
      simp only [hlooks] at h
      split at h
      · simp at h
      · split at h <;> simp at h
    | long name value =>
      simp only [hlooks] at h
      split at h
      · next v text hname =>
        split at h
        · next r' hgive => exact .inr (.inl ⟨name, text, v, r', rfl, hname, hgive, h⟩)
        · simp at h
      · next v hname => exact .inr (.inr (.inl ⟨name, v, rfl, hname, h⟩))
      · next s hname hs =>
        split at h
        · next r' hturn => exact .inr (.inr (.inr ⟨name, s, r', rfl, hname, hturn, h⟩))
        · simp at h
      · split at h
        · simp at h
        · split at h <;> simp at h
      · simp at h

/-- What reading arguments comes to is that the values they give are taken, in order. -/
theorem takes_of_read {args : List String} {r : Progress} {wanted : Option Valued} {o : Options}
    (h : Request.read r wanted args = .run o) : Takes r (Request.given wanted args) o := by
  induction args generalizing r wanted with
  | nil =>
    cases wanted with
    | none =>
      obtain rfl : r.options = o := by simpa [Request.read] using h
      exact .nothing r
    | some v => simp [Request.read] at h
  | cons arg args ih =>
    rcases read_cons h with ⟨v, r', rfl, hgive, hrest⟩ | ⟨rfl, hlooks⟩
    · exact .value hgive (ih hrest)
    · rcases hlooks with ⟨hlooks, rfl⟩ | ⟨name, text, v, r', hlooks, hname, hgive, hrest⟩ |
        ⟨name, v, hlooks, hname, hrest⟩ | ⟨name, s, r', hlooks, hname, hturn, hrest⟩
      · simp only [Request.given, hlooks]
        exact .nothing r
      · simp only [Request.given, hlooks, hname]
        exact .value hgive (ih hrest)
      · simp only [Request.given, hlooks, hname]
        exact ih hrest
      · simp only [Request.given, hlooks, hname]
        exact .alone hturn (ih hrest)

/-- The levels of categories are those that the texts give, in order. -/
theorem Takes.categories {r : Progress} {given : List (Valued × String)} {o : Options} (h : Takes r given o) :
    ∃ cs, o.categories = r.options.categories ++ cs ∧
      List.Forall₂ (fun text c => Gives text c.1 c.2) (textsOf .category given) cs := by
  induction h with
  | nothing r => exact ⟨[], (List.append_nil _).symm, .nil⟩
  | @value r r' v text given o hgive _ ih =>
    obtain ⟨cs, hcs, hgives⟩ := ih
    obtain ⟨-, o', hassign, rfl⟩ := give?_eq_some.mp hgive
    rcases Options.assign?_cases hassign with ⟨rfl, l, -, rfl⟩ | ⟨rfl, c, hc, rfl⟩ | ⟨-, hv, -, hsame⟩
    · exact ⟨cs, hcs, hgives⟩
    · refine ⟨c :: cs, ?_, .cons (Options.parseOverride_eq_ok.mp hc) hgives⟩
      rw [hcs, List.append_assoc]
      rfl
    · refine ⟨cs, by rw [hcs, hsame], ?_⟩
      rwa [textsOf_cons, if_neg hv]
  | @alone r r' s given o hturn _ ih =>
    rwa [(turnOn?_keeps hturn).2.1] at ih

/-- The level is the one that the only text for it names, if there is one. -/
theorem Takes.level {r : Progress} {given : List (Valued × String)} {o : Options} (h : Takes r given o) :
    (textsOf .level given = [] ∧ o.level = r.options.level) ∨
      Valued.level ∉ r.valued ∧ ∃ text, textsOf .level given = [text] ∧ Level.parseAnyCase text = .ok o.level := by
  induction h with
  | nothing r => exact .inl ⟨rfl, rfl⟩
  | @value r r' v text given o hgive _ ih =>
    obtain ⟨hnew, o', hassign, rfl⟩ := give?_eq_some.mp hgive
    rw [textsOf_cons]
    rcases Options.assign?_cases hassign with ⟨rfl, l, hl, rfl⟩ | ⟨rfl, c, -, rfl⟩ | ⟨hv, hc, hsame, -⟩
    · rw [if_pos rfl]
      rcases ih with ⟨hnone, hlevel⟩ | ⟨hagain, -⟩
      · exact .inr ⟨hnew, text, by rw [hnone], by rw [hlevel]; exact hl⟩
      · exact absurd List.mem_cons_self hagain
    · exact ih
    · rw [if_neg hv]
      rw [if_neg hc] at ih
      rcases ih with ⟨hnone, hlevel⟩ | ⟨hrest, hgiven⟩
      · exact .inl ⟨hnone, hlevel.trans hsame⟩
      · exact .inr ⟨fun hmem => hrest (List.mem_cons_of_mem _ hmem), hgiven⟩
  | @alone r r' s given o hturn _ ih =>
    rwa [(turnOn?_keeps hturn).1, (turnOn?_keeps hturn).2.2] at ih

end Progress

end Logbook.Demo
