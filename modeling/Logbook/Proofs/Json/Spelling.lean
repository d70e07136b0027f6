/-
# How JSON texts may be spelled

The grammar of JSON, as a relation between the words of a document and the characters of a text. Blanks may
stand before, between and behind words. A number without sign, fraction and exponent has one spelling. A
character of a text stands for itself, or is written as a letter or as a code unit behind a backslash; the
code units of a pair of surrogates together are one character, and a text with half of a pair is torn.

This is what the cutter is compared with. The relation knows nothing of its states, and the way in which
words are written here is one of the spellings.

Key definitions: `chars?`, `Stroke.Spelt`, `Token.Spelt`, `Spaced`, `Spells`.
Key theorems: `Token.spelt_spell`, `spells_render`.
-/
import Logbook.Json.Value
import Mathlib.Data.List.Forall2

namespace Logbook.Json

/-! ### Texts -/

/-- What is written between the quotes of a text: a character, or a code unit. -/
inductive Stroke where
  | char (c : Char)
  | unit (n : Nat)

/-- The first halves of surrogate pairs. -/
def IsHigh (n : Nat) : Prop := 0xd800 ≤ n ∧ n ≤ 0xdbff

/-- The second halves of surrogate pairs. -/
def IsLow (n : Nat) : Prop := 0xdc00 ≤ n ∧ n ≤ 0xdfff

instance (n : Nat) : Decidable (IsHigh n) := inferInstanceAs (Decidable (_ ∧ _))
instance (n : Nat) : Decidable (IsLow n) := inferInstanceAs (Decidable (_ ∧ _))

/-- The character of a surrogate pair. -/
def paired (high low : Nat) : Char := Char.ofNat (0x10000 + (high - 0xd800) * 0x400 + (low - 0xdc00))

/-- The characters of a text, unless half of a surrogate pair stands alone in it. -/
def chars? : List Stroke → Option (List Char)
  | [] => some []
  | .char c :: ss => (chars? ss).map (c :: ·)
  | .unit n :: ss =>
    if IsHigh n then
      match ss with
      | .unit m :: ss => if IsLow m then (chars? ss).map (paired n m :: ·) else none
      | _ => none
    else if IsLow n then none
    else (chars? ss).map (Char.ofNat n :: ·)

theorem chars?_unit {n : Nat} (hhigh : ¬ IsHigh n) (hlow : ¬ IsLow n) (ss : List Stroke) :
    chars? (.unit n :: ss) = (chars? ss).map (Char.ofNat n :: ·) := by
  rcases ss with _ | ⟨_ | _, ss⟩ <;> simp only [chars?, if_neg hhigh, if_neg hlow]

/-- The text of strokes. -/
def Words.ofStrokes (ss : List Stroke) : Words :=
  match chars? ss with
  | some cs => .whole (String.ofList cs)
  | none => .torn

/-- The letters that stand for a character behind a backslash. -/
def escapeLetters : List (Char × Char) :=
  [('\x22', '\x22'), ('\\', '\\'), ('/', '/'), ('b', '\x08'), ('f', '\x0c'), ('n', '\n'), ('r', '\r'),
    ('t', '\t')]

/-- How a stroke may be written. -/
inductive Stroke.Spelt : Stroke → List Char → Prop
  | plain {c : Char} (hquote : c ≠ '\x22') (hslash : c ≠ '\\') (hcontrol : 0x20 ≤ c.toNat) :
    Spelt (.char c) [c]
  | letter {l c : Char} (h : (l, c) ∈ escapeLetters) : Spelt (.char c) ['\\', l]
  | unit {ds : List Char} {n : Nat} (hlength : ds.length = 4) (hvalue : Text.hexNumber? ds = some n) :
    Spelt (.unit n) ('\\' :: 'u' :: ds)

/-- How a text may be written. -/
inductive Words.Spelt : Words → List Char → Prop
  | quoted {ss : List Stroke} {css : List (List Char)} (h : List.Forall₂ Stroke.Spelt ss css) :
    Spelt (.ofStrokes ss) ('\x22' :: (css.flatten ++ ['\x22']))

/-! ### Numbers -/

/-- Decimal digits, and at least one. -/
def Digits (ds : List Char) : Prop := ds ≠ [] ∧ ∀ c ∈ ds, c.isDigit

/-- The part of a number behind its point. -/
inductive Fraction : List Char → Prop
  | none : Fraction []
  | digits {ds : List Char} (h : Digits ds) : Fraction ('.' :: ds)

/-- The part of a number behind its mark of an exponent. -/
inductive Exponent : List Char → Prop
  | none : Exponent []
  | digits {e : Char} {sign ds : List Char} (he : e = 'e' ∨ e = 'E')
    (hsign : sign = [] ∨ sign = ['+'] ∨ sign = ['-']) (h : Digits ds) : Exponent (e :: (sign ++ ds))

/-- How a number may be written. -/
inductive Numeral.Spelt : Numeral → List Char → Prop
  | natural (n : Nat) : Spelt (.natural n) (Nat.toDigits 10 n)
  | other {sign fraction exponent : List Char} (hsign : sign = [] ∨ sign = ['-']) (n : Nat)
    (hfraction : Fraction fraction) (hexponent : Exponent exponent)
    (hmore : sign ++ fraction ++ exponent ≠ []) :
    Spelt .other (sign ++ Nat.toDigits 10 n ++ fraction ++ exponent)

/-! ### Words and blanks -/

/-- How a word may be written. -/
inductive Token.Spelt : Token → List Char → Prop
  | openList : Spelt .openList ['[']
  | closeList : Spelt .closeList [']']
  | openObject : Spelt .openObject ['\x7b']
  | closeObject : Spelt .closeObject ['\x7d']
  | colon : Spelt .colon [':']
  | comma : Spelt .comma [',']
  | null : Spelt .null ['n', 'u', 'l', 'l']
  | yes : Spelt (.flag true) ['t', 'r', 'u', 'e']
  | no : Spelt (.flag false) ['f', 'a', 'l', 's', 'e']
  | numeral {n : Numeral} {cs : List Char} (h : n.Spelt cs) : Spelt (.numeral n) cs
  | words {t : Words} {cs : List Char} (h : t.Spelt cs) : Spelt (.words t) cs

/-- The characters that may stand between words. -/
def blanks : List Char := [' ', '\t', '\n', '\r']

/-- How words may follow each other. -/
inductive Spaced : List Token → List Char → Prop
  | nil : Spaced [] []
  | blank {ts : List Token} {c : Char} {cs : List Char} (hc : c ∈ blanks) (h : Spaced ts cs) :
    Spaced ts (c :: cs)
  | word {t : Token} {ts : List Token} {cs ds : List Char} (ht : t.Spelt cs) (h : Spaced ts ds) :
    Spaced (t :: ts) (cs ++ ds)

/-- A text is one of the spellings of a document. -/
def Spells (v : Value) (s : String) : Prop := Spaced v.tokens s.toList

/-! ### The way in which documents are written here -/

/-- The stroke that a character is written with. -/
def strokeOf (c : Char) : Stroke :=
  if c.toNat < 0x20 ∧ c ∉ escapeLetters.map Prod.snd then .unit c.toNat else .char c

theorem fourHex_spec : ∀ n < 0x20, (fourHex n).length = 4 ∧ Text.hexNumber? (fourHex n) = some n := by
  decide

theorem strokeOf_of_letter {l c : Char} (h : (l, c) ∈ escapeLetters) : strokeOf c = .char c :=
  if_neg fun hc => hc.2 (List.mem_map_of_mem h)

theorem strokeOf_spelt (c : Char) : (strokeOf c).Spelt (escapedChar c) := by
  have hletter {l d : Char} (h : (l, d) ∈ escapeLetters) : (strokeOf d).Spelt ['\\', l] := by
    rw [strokeOf_of_letter h]
    exact .letter h
  unfold escapedChar
  split_ifs with hquote hslash hn hr ht hb hf hcontrol
  · rw [hquote]; exact hletter (by decide)
  · rw [hslash]; exact hletter (by decide)
  · rw [hn]; exact hletter (by decide)
  · rw [hr]; exact hletter (by decide)
  · rw [ht]; exact hletter (by decide)
  · rw [hb]; exact hletter (by decide)
  · rw [hf]; exact hletter (by decide)
  · obtain ⟨hlength, hvalue⟩ := fourHex_spec c.toNat hcontrol
    have hmem : c ∉ escapeLetters.map Prod.snd := fun hmem => by
      simp only [escapeLetters, List.map_cons, List.map_nil, List.mem_cons, List.not_mem_nil, or_false] at hmem
      rcases hmem with rfl | rfl | rfl | rfl | rfl | rfl | rfl | rfl <;> contradiction
    have hstroke : strokeOf c = .unit c.toNat := if_pos ⟨hcontrol, hmem⟩
    rw [hstroke]
    exact .unit hlength hvalue
  · have hstroke : strokeOf c = .char c := if_neg fun h => hcontrol h.1
    rw [hstroke]
    exact .plain hquote hslash (by omega)

/-- The strokes that a text is written with are the characters of the text. -/
theorem chars?_map_strokeOf (cs : List Char) : chars? (cs.map strokeOf) = some cs := by
  induction cs with
  | nil => rfl
  | cons c cs ih =>
    rw [List.map_cons, strokeOf]
    split
    · next hcontrol =>
      have hhigh : ¬ IsHigh c.toNat := fun h => by have := h.1; omega
      have hlow : ¬ IsLow c.toNat := fun h => by have := h.1; omega
      rw [chars?_unit hhigh hlow, ih, Option.map_some, Char.ofNat_toNat]
    · rw [chars?, ih, Option.map_some]

theorem Words.spelt_spell (t : Words) : t.Spelt (Token.words t).spell := by
  cases t with
  | whole s =>
    have hstrokes : Words.ofStrokes (s.toList.map strokeOf) = .whole s := by
      rw [Words.ofStrokes, chars?_map_strokeOf]
      simp
    have hspelt : List.Forall₂ Stroke.Spelt (s.toList.map strokeOf) (s.toList.map escapedChar) := by
      rw [List.forall₂_map_left_iff, List.forall₂_map_right_iff, List.forall₂_same]
      exact fun c _ => strokeOf_spelt c
    rw [← hstrokes]
    exact hstrokes ▸ .quoted hspelt
  | torn =>
    have hhalf : (Stroke.unit 0xd800).Spelt ['\\', 'u', 'd', '8', '0', '0'] := .unit rfl rfl
    exact .quoted (.cons hhalf .nil)

/-- The way in which words are written here is one that the grammar allows. -/
theorem Token.spelt_spell (t : Token) : t.Spelt t.spell := by
  cases t with
  | openList => exact .openList
  | closeList => exact .closeList
  | openObject => exact .openObject
  | closeObject => exact .closeObject
  | colon => exact .colon
  | comma => exact .comma
  | null => exact .null
  | flag b =>
    cases b with
    | true => exact .yes
    | false => exact .no
  | numeral n =>
    cases n with
    | natural n => exact .numeral (.natural n)
    | other =>
      have hminus : Numeral.Spelt .other (['-'] ++ Nat.toDigits 10 0 ++ [] ++ []) :=
        .other (.inr rfl) 0 .none .none (by decide)
      exact .numeral hminus
  | words t => exact .words t.spelt_spell

theorem spaced_spell (ts : List Token) : Spaced ts (ts.flatMap Token.spell) := by
  induction ts with
  | nil => exact .nil
  | cons t ts ih => exact .word t.spelt_spell ih

/-- **Documents are written as the grammar allows.** -/
theorem spells_render (v : Value) : Spells v v.render := by
  rw [Spells, Value.render, String.toList_ofList]
  exact spaced_spell v.tokens

end Logbook.Json
