/-
# The cutter finds the words of every spelling

Between words the cutter is idle, and a word takes it back there: brackets and separators at once, a text
with the quote that closes it. A number or a literal word ends only with the character behind it, and this
is a blank, a bracket or a separator wherever no two of them meet. The words of a document are so, and
therefore the cutter finds them in all spellings of the document.

Key definitions: `Lexer.Delimited`, `Lexer.Open.stroke`, `Token.isMark`, `Loose`, `Trails`.
Key theorems: `Lexer.run_numeral`, `Lexer.run_words`, `Lexer.run_word`, `Lexer.run_spaced`,
`Value.loose_tokens_append`, `tokens?_of_spells`.
-/
import Logbook.Proofs.Json.Spelling
import Mathlib.Data.List.Basic
import Mathlib.Data.List.Chain

namespace Logbook.Json

namespace Lexer

theorem run_step {s s' : State} {c : Char} {ts : List Token} (h : step s c = some (ts, s'))
    (cs : List Char) : run s (c :: cs) = (run s' cs).map (ts ++ ·) := by
  rw [run, h]
  show (run s' cs).bind (fun us => some (ts ++ us)) = _
  cases run s' cs <;> rfl

theorem run_cons {s s' : State} {c : Char} (h : step s c = some ([], s')) (cs : List Char) :
    run s (c :: cs) = run s' cs := by
  rw [run_step h]
  exact Option.map_id'

/-! ### What ends a number or a literal word -/

/-- The characters that end a number or a literal word. -/
def delimiters : List Char := blanks ++ ['[', ']', '\x7b', '\x7d', ':', ',']

/-- A number or a literal word may end in front of these characters. -/
def Delimited (cs : List Char) : Prop := ∀ c ∈ cs.head?, c ∈ delimiters

theorem delimiter_spec : ∀ c ∈ delimiters, digit? c = none ∧ ¬ ('a' ≤ c ∧ c ≤ 'z') ∧
    c ∉ ['.', 'e', 'E', '+', '-'] :=
  List.forall_iff_forall_mem.mp (by decide)

theorem continue?_delimiter {c : Char} (hc : c ∈ delimiters) (v : Nat) (p : Phase) :
    continue? v p c = none := by
  obtain ⟨hdigit, -, hother⟩ := delimiter_spec c hc
  simp only [List.mem_cons, List.not_mem_nil, or_false, not_or] at hother
  cases p <;> simp [continue?, hdigit, hother]

/-- A word that a delimiter ends is found, and the cutter goes on as it does between words. -/
theorem run_of_ends {s : State} {t : Token} {cs : List Char}
    (hstep : ∀ c ∈ delimiters, step s c = (start c).map fun r => (t :: r.1, r.2))
    (hfinish : finish s = some [t]) (hd : Delimited cs) : run s cs = (run .idle cs).map (t :: ·) := by
  cases cs with
  | nil =>
    rw [run, hfinish]
    rfl
  | cons c cs =>
    -- The character that ends the word is read as the first one between words at the same time.
    have hstep := hstep c (hd c rfl)
    cases hstart : start c with
    | none =>
      rw [hstart] at hstep
      rw [run, run, hstep, step, hstart]
      rfl
    | some r =>
      rw [hstart] at hstep
      have hidle : step .idle c = some (r.1, r.2) := hstart
      rw [run_step hstep, run_step hidle, Option.map_map]
      rfl

theorem run_number_ends {negative : Bool} {v : Nat} {p : Phase} {t : Token} {cs : List Char}
    (h : number? negative v p = some t) (hd : Delimited cs) :
    run (.number negative v p) cs = (run .idle cs).map (t :: ·) := by
  refine run_of_ends (fun c hc => ?_) (by rw [finish, h]; rfl) hd
  rw [step, continue?_delimiter hc, h, (delimiter_spec c hc).1]
  cases start c <;> rfl

theorem run_letters_ends {ls : List Char} {t : Token} {cs : List Char} (h : literal? ls = some t)
    (hd : Delimited cs) : run (.letters ls) cs = (run .idle cs).map (t :: ·) := by
  refine run_of_ends (fun c hc => ?_) (by rw [finish, h]; rfl) hd
  rw [step, if_neg (delimiter_spec c hc).2.1, h]
  cases start c <;> rfl

/-! ### Literal words -/

theorem run_letters {cs : List Char} (h : cs.Forall fun c => 'a' ≤ c ∧ c ≤ 'z') :
    ∀ (ls rest : List Char), run (.letters ls) (cs ++ rest) = run (.letters (cs.reverse ++ ls)) rest := by
  induction cs with
  | nil => intro ls rest; rfl
  | cons c cs ih =>
    intro ls rest
    obtain ⟨hc, hcs⟩ := (List.forall_cons _ c cs).mp h
    have hstep : step (.letters ls) c = some ([], .letters (c :: ls)) := if_pos hc
    rw [List.cons_append, run_cons hstep, ih hcs, List.reverse_cons, List.append_assoc,
      List.singleton_append]

theorem run_literal {c : Char} {cs rest : List Char} {t : Token}
    (hstart : step .idle c = some ([], .letters [c])) (hcs : cs.Forall fun c => 'a' ≤ c ∧ c ≤ 'z')
    (ht : literal? (cs.reverse ++ [c]) = some t) (hd : Delimited rest) :
    run .idle (c :: cs ++ rest) = (run .idle rest).map (t :: ·) := by
  rw [List.cons_append, run_cons hstart, run_letters hcs, run_letters_ends ht hd]

/-! ### Numbers -/

/-- The phase behind a whole part. -/
def Phase.ofWhole (n : Nat) : Phase := if n = 0 then .zero else .whole

theorem digit?_digitChar : ∀ d < 10, digit? (Nat.digitChar d) = some d := by decide

theorem digit?_of_isDigit {c : Char} (h : c.isDigit) : ∃ d, digit? c = some d := by
  have hrange : '0' ≤ c ∧ c ≤ '9' := by
    simpa [Char.isDigit, Char.le_def] using h
  exact ⟨_, if_pos hrange⟩

theorem step_number {negative : Bool} {v v' : Nat} {p p' : Phase} {c : Char}
    (h : continue? v p c = some (v', p')) :
    step (.number negative v p) c = some ([], .number negative v' p') := by
  rw [step, h]

/-- The digits of a whole part are read to its value, from between words as well as from behind a sign. -/
theorem run_whole {s : State} {negative : Bool}
    (hs : ∀ d < 10, step s (Nat.digitChar d) = some ([], .number negative d (.ofWhole d))) (n : Nat) :
    ∀ rest, run s (Nat.toDigits 10 n ++ rest) = run (.number negative n (.ofWhole n)) rest := by
  -- The digits are those of a tenth of the number and one more, which therefore belongs to what is left.
  induction n using Nat.strongRecOn with
  | ind n ih =>
    intro rest
    by_cases hn : n < 10
    · rw [Nat.toDigits_of_lt_base hn, List.singleton_append, run_cons (hs n hn)]
    · have htenth : Phase.ofWhole (n / 10) = .whole := if_neg (by omega)
      have hwhole : Phase.ofWhole n = .whole := if_neg (by omega)
      have hdigit := digit?_digitChar (n % 10) (by omega)
      have hstep : continue? (n / 10) .whole (Nat.digitChar (n % 10)) = some (n, .whole) := by
        have hvalue : n / 10 * 10 + n % 10 = n := by omega
        simp only [continue?, hdigit, hvalue]
      rw [Nat.toDigits_of_base_le (by decide) (by omega), List.append_assoc, ih (n / 10) (by omega),
        htenth, hwhole, List.singleton_append, run_cons (step_number hstep)]

theorem run_digits {negative : Bool} {v : Nat} {p q : Phase} {ds : List Char} (hds : Digits ds)
    (hp : ∀ c : Char, c.isDigit → continue? v p c = some (v, q))
    (hq : ∀ c : Char, c.isDigit → continue? v q c = some (v, q)) (rest : List Char) :
    run (.number negative v p) (ds ++ rest) = run (.number negative v q) rest := by
  obtain ⟨hne, hdigits⟩ := hds
  cases ds with
  | nil => exact absurd rfl hne
  | cons c ds =>
    rw [List.cons_append, run_cons (step_number (hp c (hdigits c List.mem_cons_self)))]
    have hmore : ∀ c ∈ ds, c.isDigit := fun c hc => hdigits c (List.mem_cons_of_mem _ hc)
    clear hne hdigits
    induction ds with
    | nil => rfl
    | cons d ds ih =>
      rw [List.cons_append, run_cons (step_number (hq d (hmore d List.mem_cons_self)))]
      exact ih fun c hc => hmore c (List.mem_cons_of_mem _ hc)

theorem continue?_decimals {v : Nat} {p : Phase} (hp : p = .point ∨ p = .decimals) {c : Char}
    (hc : c.isDigit) : continue? v p c = some (v, .decimals) := by
  obtain ⟨d, hd⟩ := digit?_of_isDigit hc
  rcases hp with rfl | rfl <;> simp only [continue?, hd]

theorem continue?_exponent {v : Nat} {p : Phase} (hp : p = .mark ∨ p = .markSign ∨ p = .exponent)
    {c : Char} (hc : c.isDigit) : continue? v p c = some (v, .exponent) := by
  obtain ⟨d, hd⟩ := digit?_of_isDigit hc
  rcases hp with rfl | rfl | rfl <;> simp only [continue?, hd]

theorem run_fraction {negative : Bool} {v : Nat} {p : Phase} (hp : p = .zero ∨ p = .whole)
    {cs : List Char} (h : Fraction cs) (rest : List Char) :
    run (.number negative v p) (cs ++ rest) =
      run (.number negative v (if cs = [] then p else .decimals)) rest := by
  cases h with
  | none => rfl
  | digits hds =>
    have hpoint : continue? v p '.' = some (v, .point) := by rcases hp with rfl | rfl <;> rfl
    rw [List.cons_append, run_cons (step_number hpoint), if_neg (List.cons_ne_nil _ _)]
    exact run_digits hds (fun c => continue?_decimals (.inl rfl)) (fun c => continue?_decimals (.inr rfl)) rest

theorem run_exponent {negative : Bool} {v : Nat} {p : Phase} (hp : p = .zero ∨ p = .whole ∨ p = .decimals)
    {cs : List Char} (h : Exponent cs) (rest : List Char) :
    run (.number negative v p) (cs ++ rest) =
      run (.number negative v (if cs = [] then p else .exponent)) rest := by
  cases h with
  | none => rfl
  | @digits e sign ds he hsign hds =>
    have hmark : continue? v p e = some (v, .mark) := by
      rcases hp with rfl | rfl | rfl <;> rcases he with rfl | rfl <;> rfl
    have hend (q : Phase) (hq : q = .mark ∨ q = .markSign ∨ q = .exponent) :
        run (.number negative v q) (ds ++ rest) = run (.number negative v .exponent) rest :=
      run_digits hds (fun c => continue?_exponent hq) (fun c => continue?_exponent (.inr (.inr rfl))) rest
    rw [List.cons_append, run_cons (step_number hmark), if_neg (List.cons_ne_nil _ _), List.append_assoc]
    rcases hsign with rfl | rfl | rfl
    · exact hend .mark (.inl rfl)
    · rw [List.singleton_append, run_cons (step_number rfl)]
      exact hend .markSign (.inr (.inl rfl))
    · rw [List.singleton_append, run_cons (step_number rfl)]
      exact hend .markSign (.inr (.inl rfl))

theorem start_digitChar : ∀ d < 10,
    step .idle (Nat.digitChar d) = some ([], .number false d (.ofWhole d)) := by decide

theorem sign_digitChar : ∀ d < 10,
    step (.number true 0 .sign) (Nat.digitChar d) = some ([], .number true d (.ofWhole d)) := by decide

/-- A number is found in each of its spellings. -/
theorem run_numeral {n : Numeral} {cs rest : List Char} (h : n.Spelt cs) (hd : Delimited rest) :
    run .idle (cs ++ rest) = (run .idle rest).map (.numeral n :: ·) := by
  cases h with
  | natural n =>
    rw [run_whole start_digitChar]
    refine run_number_ends ?_ hd
    rw [Phase.ofWhole]
    split <;> rfl
  | @other sign fraction exponent hsign n hfraction hexponent hmore =>
    have hwhole : Phase.ofWhole n = .zero ∨ Phase.ofWhole n = .whole := by
      rw [Phase.ofWhole]
      split
      · exact .inl rfl
      · exact .inr rfl
    have hrest (negative : Bool) (hmore : negative = true ∨ fraction ≠ [] ∨ exponent ≠ []) :
        run (.number negative n (.ofWhole n)) (fraction ++ (exponent ++ rest)) =
          (run .idle rest).map (.numeral .other :: ·) := by
      have hafter (p : Phase) (hp : p = if fraction = [] then Phase.ofWhole n else .decimals) :
          p = .zero ∨ p = .whole ∨ p = .decimals := by
        rw [hp]
        split
        · exact hwhole.imp_right .inl
        · exact .inr (.inr rfl)
      rw [run_fraction hwhole hfraction, run_exponent (hafter _ rfl) hexponent]
      refine run_number_ends ?_ hd
      by_cases hexp : exponent = []
      · by_cases hfrac : fraction = []
        · obtain rfl : negative = true := by simpa [hexp, hfrac] using hmore
          rw [if_pos hexp, if_pos hfrac]
          rcases hwhole with hphase | hphase <;> rw [hphase] <;> rfl
        · rw [if_pos hexp, if_neg hfrac]
          rfl
      · rw [if_neg hexp]
        rfl
    rcases hsign with rfl | rfl
    · rw [List.nil_append, List.append_assoc, List.append_assoc, run_whole start_digitChar]
      refine hrest false (.inr ?_)
      by_cases hfrac : fraction = []
      · exact .inr fun hexp => hmore (by rw [hfrac, hexp]; rfl)
      · exact .inl hfrac
    · have hminus : step .idle '-' = some ([], .number true 0 .sign) := rfl
      rw [List.append_assoc, List.append_assoc, List.append_assoc, List.singleton_append, run_cons hminus,
        run_whole sign_digitChar]
      exact hrest true (.inl rfl)

/-! ### Texts -/

/-- A text that goes on with a stroke. -/
def Open.stroke (t : Open) : Stroke → Open
  | .char c => t.push c
  | .unit n => t.pushUnit n

theorem Open.pushUnit_escape (t : Open) (e : Escape) (n : Nat) :
    Open.pushUnit { t with escape := e } n = t.pushUnit n := by
  unfold Open.pushUnit
  split
  · cases t.half <;> rfl
  · rfl

theorem Open.escape_stroke (t : Open) (s : Stroke) : (t.stroke s).escape = .no := by
  cases s with
  | char c => rfl
  | unit n =>
    show (t.pushUnit n).escape = .no
    unfold Open.pushUnit
    split_ifs
    · cases t.half <;> rfl
    · rfl
    · rfl

theorem escape?_letter : ∀ x ∈ escapeLetters, x.1 ≠ 'u' ∧ escape? x.1 = some x.2 := by decide

/-- The hexadecimal digits that a text waits for make up a code unit. -/
theorem run_hexDigits {t : Open} {ds : List Char} (hne : ds ≠ []) :
    ∀ {v n : Nat}, ds.foldlM (fun n c => (Text.hexDigit? c).map fun d => n * 16 + d) v = some n →
      ∀ rest, run (.quotes { t with escape := .digits ds.length v }) (ds ++ rest) =
        run (.quotes (t.pushUnit n)) rest := by
  induction ds with
  | nil => exact absurd rfl hne
  | cons c ds ih =>
    intro v n hvalue rest
    rw [List.foldlM_cons] at hvalue
    cases hdigit : Text.hexDigit? c with
    | none => simp [hdigit] at hvalue
    | some d =>
      rw [hdigit] at hvalue
      have hvalue : ds.foldlM (fun n c => (Text.hexDigit? c).map fun d => n * 16 + d) (v * 16 + d) = some n :=
        hvalue
      by_cases hds : ds = []
      · subst hds
        obtain rfl : v * 16 + d = n := by simpa using hvalue
        refine run_cons ?_ rest
        simp only [step, quote, hdigit, Option.map_some, List.length_singleton, if_pos (Nat.le_refl 1),
          Open.pushUnit_escape]
      · have hlength : ¬ ds.length + 1 ≤ 1 := by
          have := List.length_pos_of_ne_nil hds
          omega
        rw [← ih hds hvalue rest]
        refine run_cons ?_ (ds ++ rest)
        simp only [step, quote, hdigit, Option.map_some, List.length_cons, if_neg hlength, Nat.add_sub_cancel]

/-- A stroke is found in each of its spellings. -/
theorem run_stroke {s : Stroke} {cs : List Char} (h : s.Spelt cs) {t : Open} (ht : t.escape = .no)
    (rest : List Char) : run (.quotes t) (cs ++ rest) = run (.quotes (t.stroke s)) rest := by
  have hslash : step (.quotes t) '\\' = some ([], .quotes { t with escape := .letter }) := by
    rw [step, quote, ht]
    rfl
  cases h with
  | @plain c hquote hback hcontrol =>
    refine run_cons ?_ rest
    rw [step, quote, ht]
    simp only [if_neg hquote, if_neg hback, if_neg (Nat.not_lt.mpr hcontrol)]
    rfl
  | @letter l c hletter =>
    obtain ⟨hu, hc⟩ := escape?_letter _ hletter
    rw [List.cons_append, run_cons hslash]
    refine run_cons ?_ rest
    simp only [step, quote, if_neg hu, hc]
    rfl
  | @unit ds n hlength hvalue =>
    have hne : ds ≠ [] := fun h => by simp [h] at hlength
    have hu : step (.quotes { t with escape := .letter }) 'u' =
        some ([], .quotes { t with escape := .digits 4 0 }) := rfl
    rw [Text.hexNumber?, if_neg (by simpa using hne)] at hvalue
    rw [List.cons_append, run_cons hslash, List.cons_append, run_cons hu, ← hlength]
    exact run_hexDigits hne hvalue rest

theorem run_strokes {ss : List Stroke} {css : List (List Char)} (h : List.Forall₂ Stroke.Spelt ss css) :
    ∀ {t : Open}, t.escape = .no → ∀ rest,
      run (.quotes t) (css.flatten ++ rest) = run (.quotes (ss.foldl Open.stroke t)) rest ∧
        (ss.foldl Open.stroke t).escape = .no := by
  induction h with
  | nil => exact fun ht _ => ⟨rfl, ht⟩
  | @cons s cs ss css hs _ ih =>
    intro t ht rest
    rw [List.flatten_cons, List.append_assoc, run_stroke hs ht]
    exact ih (t.escape_stroke s) rest

/-! The code units of a text by their kinds. -/

theorem Open.pushUnit_eq (t : Open) (n : Nat) :
    t.pushUnit n =
      if IsLow n then
        match t.half with
        | some h => ⟨paired h n :: t.chars, t.torn, none, .no⟩
        | none => ⟨t.chars, true, t.half, .no⟩
      else if IsHigh n then ⟨t.chars, t.torn || t.half.isSome, some n, .no⟩
      else t.push (Char.ofNat n) := rfl

theorem Open.pushUnit_of_high {n : Nat} (h : IsHigh n) (t : Open) :
    t.pushUnit n = ⟨t.chars, t.torn || t.half.isSome, some n, .no⟩ := by
  have hlow : ¬ IsLow n := fun hlow => by
    have := h.2
    have := hlow.1
    omega
  rw [Open.pushUnit_eq, if_neg hlow, if_pos h]

theorem Open.pushUnit_of_low {n : Nat} (h : IsLow n) {t : Open} (hhalf : t.half = none) :
    t.pushUnit n = ⟨t.chars, true, none, .no⟩ := by
  rw [Open.pushUnit_eq, if_pos h, hhalf]

theorem Open.pushUnit_of_pair {n m : Nat} (hm : IsLow m) {t : Open} (hhalf : t.half = some n) :
    t.pushUnit m = ⟨paired n m :: t.chars, t.torn, none, .no⟩ := by
  rw [Open.pushUnit_eq, if_pos hm, hhalf]

theorem Open.pushUnit_of_neither {n : Nat} (hhigh : ¬ IsHigh n) (hlow : ¬ IsLow n) (t : Open) :
    t.pushUnit n = t.push (Char.ofNat n) := by
  rw [Open.pushUnit_eq, if_neg hlow, if_neg hhigh]

theorem Open.torn_stroke {t : Open} (h : t.torn = true) (s : Stroke) : (t.stroke s).torn = true := by
  have hor : (t.torn || t.half.isSome) = true := by rw [h, Bool.true_or]
  cases s with
  | char c => exact hor
  | unit n =>
    rw [Open.stroke]
    by_cases hlow : IsLow n
    · cases hhalf : t.half with
      | none => rw [Open.pushUnit_of_low hlow hhalf]
      | some m => rw [Open.pushUnit_of_pair hlow hhalf, h]
    · by_cases hhigh : IsHigh n
      · rw [Open.pushUnit_of_high hhigh, hor]
      · rw [Open.pushUnit_of_neither hhigh hlow]
        exact hor

/-- Behind the first half of a pair, all but a second half tears the text. -/
theorem Open.torn_of_half {t : Open} {n : Nat} (h : t.half = some n) {s : Stroke}
    (hs : ∀ m, s = .unit m → ¬ IsLow m) : (t.stroke s).torn = true := by
  have hor : (t.torn || t.half.isSome) = true := by rw [h, Option.isSome_some, Bool.or_true]
  cases s with
  | char c => exact hor
  | unit m =>
    rw [Open.stroke]
    by_cases hhigh : IsHigh m
    · rw [Open.pushUnit_of_high hhigh, hor]
    · rw [Open.pushUnit_of_neither hhigh (hs m rfl)]
      exact hor

theorem Open.close_of_torn (ss : List Stroke) : ∀ {t : Open}, t.torn = true →
    (ss.foldl Open.stroke t).close = .torn := by
  induction ss with
  | nil =>
    intro t h
    rw [List.foldl_nil, Open.close, h]
    rfl
  | cons s ss ih => exact fun h => ih (Open.torn_stroke h s)

/-- The text that the cutter gathers is that of its strokes. -/
theorem Open.close_strokes (ss : List Stroke) : ∀ cs : List Char,
    (ss.foldl Open.stroke ⟨cs, false, none, .no⟩).close =
      match chars? ss with
      | some ds => .whole (String.ofList (cs.reverse ++ ds))
      | none => .torn := by
  -- The cases are those of `chars?`: a pair is read at once there, and by two steps here.
  induction ss using chars?.induct with
  | case1 =>
    intro cs
    simp [chars?, Open.close]
  | case2 c ss ih =>
    intro cs
    refine (ih (c :: cs)).trans ?_
    rw [chars?]
    cases chars? ss <;> simp
  | case3 n hn m ss hm ih =>
    intro cs
    have hfirst : Open.stroke ⟨cs, false, none, .no⟩ (.unit n) = ⟨cs, false, some n, .no⟩ :=
      Open.pushUnit_of_high hn _
    have hsecond : Open.stroke ⟨cs, false, some n, .no⟩ (.unit m) = ⟨paired n m :: cs, false, none, .no⟩ :=
      Open.pushUnit_of_pair hm rfl
    rw [List.foldl_cons, List.foldl_cons, hfirst, hsecond]
    refine (ih (paired n m :: cs)).trans ?_
    simp only [chars?, if_pos hn, if_pos hm]
    cases chars? ss <;> simp
  | case4 n hn m ss hm =>
    intro cs
    have hfirst : Open.stroke ⟨cs, false, none, .no⟩ (.unit n) = ⟨cs, false, some n, .no⟩ :=
      Open.pushUnit_of_high hn _
    have hnot : ∀ k, Stroke.unit m = .unit k → ¬ IsLow k := fun k hk => by cases hk; exact hm
    rw [List.foldl_cons, List.foldl_cons, hfirst, Open.close_of_torn ss (Open.torn_of_half rfl hnot)]
    simp only [chars?, if_pos hn, if_neg hm]
  | case5 n ss hn hss =>
    intro cs
    have hnone : chars? (.unit n :: ss) = none := by
      rcases ss with _ | ⟨_ | m, ss⟩
      · simp only [chars?, if_pos hn]
      · simp only [chars?, if_pos hn]
      · exact absurd rfl (hss m ss)
    rw [List.foldl_cons, Open.stroke, Open.pushUnit_of_high hn, hnone]
    cases ss with
    | nil => rfl
    | cons s ss =>
      exact Open.close_of_torn ss (Open.torn_of_half rfl fun m hs => absurd (by rw [hs]) (hss m ss))
  | case6 n ss hn hlow =>
    intro cs
    have hnone : chars? (.unit n :: ss) = none := by
      rcases ss with _ | ⟨_ | _, ss⟩ <;> simp only [chars?, if_neg hn, if_pos hlow]
    rw [List.foldl_cons, Open.stroke, Open.pushUnit_of_low hlow rfl, hnone]
    exact Open.close_of_torn ss rfl
  | case7 n ss hn hlow ih =>
    intro cs
    rw [List.foldl_cons, Open.stroke, Open.pushUnit_of_neither hn hlow, chars?_unit hn hlow]
    refine (ih (Char.ofNat n :: cs)).trans ?_
    cases chars? ss <;> simp

/-- A text is found in each of its spellings. -/
theorem run_words {t : Words} {cs : List Char} (h : t.Spelt cs) (rest : List Char) :
    run .idle (cs ++ rest) = (run .idle rest).map (.words t :: ·) := by
  cases h with
  | @quoted ss css h =>
    obtain ⟨hrun, hescape⟩ := run_strokes h (t := ⟨[], false, none, .no⟩) rfl ('\x22' :: rest)
    have hclose : (ss.foldl Open.stroke ⟨[], false, none, .no⟩).close = .ofStrokes ss :=
      Open.close_strokes ss []
    have hquote : step .idle '\x22' = some ([], .quotes ⟨[], false, none, .no⟩) := rfl
    have hend : step (.quotes (ss.foldl Open.stroke ⟨[], false, none, .no⟩)) '\x22' =
        some ([.words (.ofStrokes ss)], .idle) := by
      rw [step, quote, hescape, ← hclose]
      rfl
    rw [List.cons_append, run_cons hquote, List.append_assoc, List.singleton_append, hrun, run_step hend]
    rfl

end Lexer

/-! ### Words and blanks -/

/-- Brackets and separators, which end by themselves and end what stands in front of them. -/
def Token.isMark : Token → Bool
  | .openList | .closeList | .openObject | .closeObject | .colon | .comma => true
  | .null | .flag _ | .numeral _ | .words _ => false

/-- One of every two neighbours is a bracket or a separator. -/
def Loose (ts : List Token) : Prop := ts.IsChain fun t u => t.isMark ∨ u.isMark

namespace Lexer

theorem run_mark {t : Token} {c : Char} (h : step .idle c = some ([t], .idle)) (rest : List Char) :
    run .idle ([c] ++ rest) = (run .idle rest).map (t :: ·) :=
  run_step h rest

/-- A word is found in each of its spellings, if it ends there. -/
theorem run_word {t : Token} {cs rest : List Char} (h : t.Spelt cs) (hd : t.isMark ∨ Delimited rest) :
    run .idle (cs ++ rest) = (run .idle rest).map (t :: ·) := by
  have hscalar (hmark : t.isMark = false) : Delimited rest := hd.resolve_left (by rw [hmark]; decide)
  cases h with
  | openList | closeList | openObject | closeObject | colon | comma => exact run_mark rfl rest
  | null => exact run_literal rfl (by decide) rfl (hscalar rfl)
  | yes => exact run_literal rfl (by decide) rfl (hscalar rfl)
  | no => exact run_literal rfl (by decide) rfl (hscalar rfl)
  | numeral h => exact run_numeral h (hscalar rfl)
  | words h => exact run_words h rest

theorem start_blank : ∀ c ∈ blanks, step .idle c = some ([], .idle) :=
  List.forall_iff_forall_mem.mp (by decide)

/-- Where a bracket or a separator comes next, or nothing, there is a delimiter. -/
theorem delimited_of_spaced {ts : List Token} {cs : List Char} (h : Spaced ts cs)
    (hmark : ∀ t ∈ ts.head?, t.isMark) : Delimited cs := by
  intro c hc
  cases h with
  | nil => cases hc
  | blank hblank h =>
    obtain rfl : _ = c := Option.some.inj hc
    exact List.mem_append_left _ hblank
  | word ht h =>
    have hmark := hmark _ rfl
    cases ht with
    | openList | closeList | openObject | closeObject | colon | comma =>
      obtain rfl : _ = c := Option.some.inj hc
      decide
    | null | yes | no | numeral | words => cases hmark

/-- The words of a text are found, however they are spelled and whatever blanks stand between them. -/
theorem run_spaced {ts : List Token} {cs : List Char} (h : Spaced ts cs) (hloose : Loose ts) :
    run .idle cs = some ts := by
  induction h with
  | nil => rfl
  | blank hc _ ih => rw [run_cons (start_blank _ hc), ih hloose]
  | @word t ts cs ds ht h ih =>
    have hnext : t.isMark ∨ Delimited ds := by
      by_cases hmark : t.isMark = true
      · exact .inl hmark
      · refine .inr (delimited_of_spaced h fun u hu => ?_)
        exact ((List.isChain_cons.mp hloose).1 u hu).resolve_left hmark
    rw [run_word ht hnext, ih (List.isChain_cons.mp hloose).2, Option.map_some]

end Lexer

/-! ### The words of a document -/

/-- Words that may stand behind a value. -/
def Trails (ts : List Token) : Prop := Loose ts ∧ ∀ t ∈ ts.head?, t.isMark

theorem loose_cons_of_mark {t : Token} (ht : t.isMark) {ts : List Token} (h : Loose ts) : Loose (t :: ts) :=
  List.isChain_cons.mpr ⟨fun _ _ => .inl ht, h⟩

theorem Trails.cons {t : Token} (ht : t.isMark) {ts : List Token} (h : Loose ts) : Trails (t :: ts) :=
  ⟨loose_cons_of_mark ht h, fun u hu => by cases hu; exact ht⟩

theorem Trails.loose_cons {ts : List Token} (h : Trails ts) (t : Token) : Loose (t :: ts) :=
  List.isChain_cons.mpr ⟨fun u hu => .inr (h.2 u hu), h.1⟩

namespace Value

mutual

theorem loose_tokens_append (v : Value) {ts : List Token} (h : Trails ts) : Loose (v.tokens ++ ts) := by
  match v with
  | .null | .flag _ | .numeral _ | .words _ => exact h.loose_cons _
  | .list [] => exact loose_cons_of_mark rfl (loose_cons_of_mark rfl h.1)
  | .list (v :: vs) =>
    have hend : Trails (.closeList :: ts) := .cons rfl h.1
    have hitems := loose_tokens_append v (trails_itemTokens_append vs hend)
    simp only [tokens, List.cons_append, List.append_assoc, List.nil_append]
    exact loose_cons_of_mark rfl hitems
  | .object [] => exact loose_cons_of_mark rfl (loose_cons_of_mark rfl h.1)
  | .object (m :: ms) =>
    have hend : Trails (.closeObject :: ts) := .cons rfl h.1
    have hvalue := loose_tokens_append m.2 (trails_memberTokens_append ms hend)
    have hmember := (Trails.cons (t := .colon) rfl hvalue).loose_cons (.words m.1)
    simp only [tokens, List.cons_append, List.append_assoc, List.nil_append]
    exact loose_cons_of_mark rfl hmember

theorem trails_itemTokens_append (vs : List Value) {ts : List Token} (h : Trails ts) :
    Trails (itemTokens vs ++ ts) := by
  match vs with
  | [] => exact h
  | v :: vs =>
    have hvalue := loose_tokens_append v (trails_itemTokens_append vs h)
    simp only [itemTokens, List.cons_append, List.append_assoc]
    exact .cons rfl hvalue

theorem trails_memberTokens_append (ms : List (Words × Value)) {ts : List Token} (h : Trails ts) :
    Trails (memberTokens ms ++ ts) := by
  match ms with
  | [] => exact h
  | m :: ms =>
    have hvalue := loose_tokens_append m.2 (trails_memberTokens_append ms h)
    have hmember := (Trails.cons (t := .colon) rfl hvalue).loose_cons (.words m.1)
    simp only [memberTokens, List.cons_append, List.append_assoc]
    exact .cons rfl hmember

end

end Value

/-- **The cutter finds the words of a document in each of its spellings.** -/
theorem tokens?_of_spells {v : Value} {s : String} (h : Spells v s) : tokens? s = some v.tokens := by
  have hloose : Loose (v.tokens ++ []) := v.loose_tokens_append ⟨.nil, fun _ h => by cases h⟩
  rw [List.append_nil] at hloose
  exact Lexer.run_spaced h hloose

end Logbook.Json
