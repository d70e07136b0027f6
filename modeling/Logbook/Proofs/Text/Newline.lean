/-
# Newlines in texts and in their bytes

A text has a newline exactly where its bytes have one, and bytes that spell a text, however broken they
are, spell a newline only if there is one among them: a character of several bytes is never one, and
neither is what stands for bytes that spell nothing. So what lies between two newlines in a stream of
bytes is the text of one line, and lines that are written one after the other, each with a newline
behind it, can be told apart again.

Key definitions: `Text.OneLine`, `Text.Utf8.Far`, `ended`.
Key theorems: `Text.newline_mem_encode`, `Text.newline_mem_of_decode`, `Text.oneLine_natural`,
`splitOn_ended`.
-/
import Logbook.Forwarder

namespace Logbook

namespace Text

/-! ### Encoding -/

theorem newline_mem_encodeChar (c : Char) : newline ∈ encodeChar c ↔ c = '\n' := by
  have hnewline : c = '\n' ↔ c.toNat = 10 := (Char.toNat_inj (d := '\n')).symm
  have hlast : c.toNat < 0x110000 := by
    have hvalid := c.valid
    rw [UInt32.isValidChar, Nat.isValidChar] at hvalid
    rw [← Char.toNat_val]
    omega
  have hbyte (n : Nat) : newline = UInt8.ofNat n ↔ n % 256 = 10 := by
    rw [← UInt8.toNat_inj, UInt8.toNat_ofNat', eq_comm]
    rfl
  rw [hnewline]
  simp only [encodeChar, continuation]
  split
  · simp only [List.mem_singleton, hbyte]
    omega
  · split
    · simp only [List.mem_cons, List.not_mem_nil, or_false, hbyte]
      omega
    · split
      · simp only [List.mem_cons, List.not_mem_nil, or_false, hbyte]
        omega
      · simp only [List.mem_cons, List.not_mem_nil, or_false, hbyte]
        omega

/-- The bytes of a text have a newline exactly if the text has one. -/
theorem newline_mem_encode (cs : List Char) : newline ∈ encode cs ↔ '\n' ∈ cs := by
  simp only [encode, List.mem_flatMap, newline_mem_encodeChar, exists_eq_right]

/-! ### Decoding

Only the characters below 128 are one byte long. Whatever a reader is inside of is bound to end up above
them: the value that was read is two at least, or the next byte will make it so. -/

namespace Utf8

/-- A reader is not on its way to a character that a single byte could have spelt. -/
def Far : State → Prop
  | .between => True
  | .inside value owed low high =>
    1 ≤ owed ∧ high ≤ 0xbf ∧ (2 ≤ value ∨ 2 ≤ owed ∧ (value = 1 ∨ 0x82 ≤ low))

theorem ofNat_eq_newline {n : Nat} : Char.ofNat n = '\n' ↔ n = 10 := by
  constructor
  · intro h
    have hn := congrArg Char.toNat h
    by_cases hv : n.isValidChar
    · rw [Char.ofNat, dif_pos hv] at hn
      exact hn
    · rw [Char.ofNat, dif_neg hv] at hn
      exact absurd hn (by decide)
  · rintro rfl
    rfl

theorem far_begin (b : UInt8) : Far (begin b).2 := by
  simp only [begin]
  repeat' split
  all_goals simp only [Far]
  all_goals omega

theorem newline_of_begin {b : UInt8} (h : '\n' ∈ (begin b).1) : b = newline := by
  simp only [begin] at h
  split at h
  · have hb : '\n' = Char.ofNat b.toNat := List.mem_singleton.mp h
    exact UInt8.toNat_inj.mp (ofNat_eq_newline.mp hb.symm)
  · repeat' split at h
    all_goals simp [replacement] at h

theorem far_step {s : State} (hs : Far s) (b : UInt8) : Far (step s b).2 := by
  cases s with
  | between => exact far_begin b
  | inside value owed low high =>
    obtain ⟨howed, hhigh, hvalue⟩ := hs
    simp only [step]
    split
    · split
      · trivial
      · simp only [Far]
        omega
    · exact far_begin b

theorem newline_of_step {s : State} (hs : Far s) {b : UInt8} (h : '\n' ∈ (step s b).1) :
    b = newline := by
  cases s with
  | between => exact newline_of_begin h
  | inside value owed low high =>
    obtain ⟨howed, hhigh, hvalue⟩ := hs
    simp only [step] at h
    split at h
    · split at h
      · have hc : '\n' = Char.ofNat (value * 0x40 + b.toNat % 0x40) := List.mem_singleton.mp h
        have := ofNat_eq_newline.mp hc.symm
        omega
      · simp at h
    · rcases List.mem_cons.mp h with hc | hc
      · exact absurd hc (by decide)
      · exact newline_of_begin hc

theorem newline_mem_of_decodeFrom : ∀ (bs : List UInt8) {s : State}, Far s →
    '\n' ∈ decodeFrom s bs → newline ∈ bs
  | [], s, _, h => by
    cases s with
    | between => simp [decodeFrom, finish] at h
    | inside value owed low high => simp [decodeFrom, finish, replacement] at h
  | b :: bs, s, hs, h => by
    rw [decodeFrom] at h
    rcases List.mem_append.mp h with h | h
    · exact List.mem_cons.mpr (.inl (newline_of_step hs h).symm)
    · exact List.mem_cons_of_mem b (newline_mem_of_decodeFrom bs (far_step hs b) h)

end Utf8

/-- Bytes spell a newline only if there is one among them. -/
theorem newline_mem_of_decode {bs : List UInt8} (h : '\n' ∈ decode bs) : newline ∈ bs :=
  Utf8.newline_mem_of_decodeFrom bs (s := .between) trivial h

/-! ### Texts of one line -/

/-- A text without a newline. -/
def OneLine (s : String) : Prop := '\n' ∉ s.toList

instance (s : String) : Decidable (OneLine s) := inferInstanceAs (Decidable (_ ∉ _))

@[simp] theorem oneLine_append (s t : String) : OneLine (s ++ t) ↔ OneLine s ∧ OneLine t := by
  simp [OneLine, String.toList_append]

@[simp] theorem oneLine_ofList (cs : List Char) : OneLine (String.ofList cs) ↔ '\n' ∉ cs := by
  simp [OneLine]

/-- Numbers are written with digits. -/
@[simp] theorem oneLine_natural (n : Nat) : OneLine (toString n) := by
  have hdigits : toString n = String.ofList (Nat.toDigits 10 n) := Nat.repr_eq_ofList_toDigits
  rw [hdigits, oneLine_ofList]
  intro h
  exact absurd (Nat.isDigit_of_mem_toDigits (by decide) (by decide) h) (by decide)

theorem oneLine_ofBytes {bs : List UInt8} (h : newline ∉ bs) : OneLine (ofBytes bs) := by
  rw [ofBytes, oneLine_ofList]
  exact fun hm => h (newline_mem_of_decode hm)

theorem newline_notMem_bytes {s : String} (h : OneLine s) : newline ∉ bytes s := by
  rwa [bytes, newline_mem_encode]

theorem bytes_append (s t : String) : bytes (s ++ t) = bytes s ++ bytes t := by
  simp [bytes, encode, String.toList_append]

/-- A line with its end is the bytes of the line and a newline. -/
theorem bytes_line (s : String) : bytes (s ++ "\n") = bytes s ++ [newline] := by
  rw [bytes_append]
  rfl

end Text

/-! ### Lines one after the other -/

/-- Lines with a newline behind each of them. -/
def ended (ls : List (List UInt8)) : List UInt8 := ls.flatMap (· ++ [newline])

theorem ended_cons (l : List UInt8) (ls : List (List UInt8)) :
    ended (l :: ls) = l ++ newline :: ended ls := by
  simp [ended]

/-- Cutting at the newlines gives the lines back, with nothing behind the last newline. -/
theorem splitOn_ended : ∀ {ls : List (List UInt8)}, (∀ l ∈ ls, newline ∉ l) →
    (ended ls).splitOn newline = ls ++ [[]]
  | [], _ => rfl
  | l :: ls, h => by
    have hrest := splitOn_ended fun m hm => h m (List.mem_cons_of_mem l hm)
    rw [ended_cons, List.splitOn_append_cons_self_of_not_mem (h l List.mem_cons_self), hrest]
    rfl

/-- There are as many newlines as lines. -/
theorem count_ended : ∀ {ls : List (List UInt8)}, (∀ l ∈ ls, newline ∉ l) →
    (ended ls).count newline = ls.length
  | [], _ => rfl
  | l :: ls, h => by
    have hrest := count_ended fun m hm => h m (List.mem_cons_of_mem l hm)
    rw [ended_cons, List.count_append, List.count_eq_zero.mpr (h l List.mem_cons_self),
      List.count_cons_self, hrest, List.length_cons, Nat.zero_add]

end Logbook
