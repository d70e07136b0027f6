/-
# Bytes read back as the text they spell

A character is read back from its bytes whatever comes behind them: the first byte says how many more
are owed and what the next one can be, and every further byte lies in the range that is asked for. So
the bytes of a text are read as that text, with nothing replaced.

The bytes are those that a string is made of, and a text has its newlines where its bytes have theirs:
cutting the bytes gives the bytes of the pieces.

Key theorems: `Text.decode_encode`, `Text.ofBytes_bytes`, `Text.bytes_eq_toUTF8`, `Text.splitOn_encode`.
-/
import Logbook.Proofs.Text.Newline

namespace Logbook.Text

/-! ### Reading a character -/

/-- Code points leave a gap where the halves of surrogate pairs are. -/
theorem toNat_valid (c : Char) :
    c.toNat < 0xd800 ∨ 0xdfff < c.toNat ∧ c.toNat < 0x110000 := by
  have hvalid := c.valid
  rwa [UInt32.isValidChar, Nat.isValidChar, Char.toNat_val] at hvalid

namespace Utf8

theorem toNat_ofNat {n : Nat} (h : n < 0x100) : (UInt8.ofNat n).toNat = n := by
  rw [UInt8.toNat_ofNat', Nat.mod_eq_of_lt h]

theorem toNat_continuation (n : Nat) : (continuation n).toNat = 0x80 + n % 0x40 :=
  toNat_ofNat (by omega)

/-- A byte that continues a character adds its six bits to the value. -/
theorem decodeFrom_continuation {value owed low high n : Nat} (howed : 2 ≤ owed)
    (hlow : low ≤ 0x80 + n % 0x40) (hhigh : 0x80 + n % 0x40 ≤ high) (bs : List UInt8) :
    decodeFrom (.inside value owed low high) (continuation n :: bs) =
      decodeFrom (.inside (value * 0x40 + n % 0x40) (owed - 1) 0x80 0xbf) bs := by
  have hbits : (0x80 + n % 0x40) % 0x40 = n % 0x40 := by omega
  simp only [decodeFrom, step, toNat_continuation, hlow, hhigh, hbits, and_self, if_true,
    if_neg (Nat.not_le.mpr howed), List.nil_append]

/-- The last byte that is owed completes the character. -/
theorem decodeFrom_last {value low high n : Nat} (hlow : low ≤ 0x80 + n % 0x40)
    (hhigh : 0x80 + n % 0x40 ≤ high) (bs : List UInt8) :
    decodeFrom (.inside value 1 low high) (continuation n :: bs) =
      Char.ofNat (value * 0x40 + n % 0x40) :: decodeFrom .between bs := by
  have hbits : (0x80 + n % 0x40) % 0x40 = n % 0x40 := by omega
  simp only [decodeFrom, step, toNat_continuation, hlow, hhigh, hbits, and_self, if_true,
    Nat.le_refl, List.singleton_append]

/-- The first of two bytes. -/
theorem begin_two {n : Nat} (hlow : 0x80 ≤ n) (hhigh : n < 0x800) :
    begin (UInt8.ofNat (0xc0 + n / 0x40)) = ([], .inside (n / 0x40) 1 0x80 0xbf) := by
  have hbyte : (UInt8.ofNat (0xc0 + n / 0x40)).toNat = 0xc0 + n / 0x40 := toNat_ofNat (by omega)
  have hvalue : 0xc0 + n / 0x40 - 0xc0 = n / 0x40 := by omega
  simp only [begin, hbyte, hvalue]
  rw [if_neg (by omega), if_pos (by omega)]

/-- The first of three bytes. What may come next is narrower where a shorter spelling or half of a
surrogate pair would be read otherwise. -/
theorem begin_three {n : Nat} (hlow : 0x800 ≤ n) (hhigh : n < 0x10000)
    (hgap : n < 0xd800 ∨ 0xdfff < n) :
    ∃ low high, low ≤ 0x80 + n / 0x40 % 0x40 ∧ 0x80 + n / 0x40 % 0x40 ≤ high ∧
      begin (UInt8.ofNat (0xe0 + n / 0x1000)) = ([], .inside (n / 0x1000) 2 low high) := by
  have hbyte : (UInt8.ofNat (0xe0 + n / 0x1000)).toNat = 0xe0 + n / 0x1000 := toNat_ofNat (by omega)
  have hvalue : 0xe0 + n / 0x1000 - 0xe0 = n / 0x1000 := by omega
  simp only [begin, hbyte, hvalue]
  rw [if_neg (by omega), if_neg (by omega)]
  by_cases hfirst : n / 0x1000 = 0
  · exact ⟨0xa0, 0xbf, by omega, by omega, by rw [if_pos (by omega), hfirst]⟩
  · rw [if_neg (by omega)]
    by_cases hhalf : n / 0x1000 = 0xd
    · exact ⟨0x80, 0x9f, by omega, by omega, by rw [if_pos (by omega), hhalf]⟩
    · exact ⟨0x80, 0xbf, by omega, by omega, by rw [if_neg (by omega), if_pos (by omega)]⟩

/-- The first of four bytes. What may come next is narrower where a shorter spelling or a number beyond
the last code point would be read otherwise. -/
theorem begin_four {n : Nat} (hlow : 0x10000 ≤ n) (hhigh : n < 0x110000) :
    ∃ low high, low ≤ 0x80 + n / 0x1000 % 0x40 ∧ 0x80 + n / 0x1000 % 0x40 ≤ high ∧
      begin (UInt8.ofNat (0xf0 + n / 0x40000)) = ([], .inside (n / 0x40000) 3 low high) := by
  have hbyte : (UInt8.ofNat (0xf0 + n / 0x40000)).toNat = 0xf0 + n / 0x40000 := toNat_ofNat (by omega)
  have hvalue : 0xf0 + n / 0x40000 - 0xf0 = n / 0x40000 := by omega
  simp only [begin, hbyte, hvalue]
  rw [if_neg (by omega), if_neg (by omega), if_neg (by omega), if_neg (by omega), if_neg (by omega)]
  by_cases hfirst : n / 0x40000 = 0
  · exact ⟨0x90, 0xbf, by omega, by omega, by rw [if_pos (by omega), hfirst]⟩
  · rw [if_neg (by omega)]
    by_cases hlast : n / 0x40000 = 4
    · exact ⟨0x80, 0x8f, by omega, by omega, by rw [if_pos (by omega), hlast]⟩
    · exact ⟨0x80, 0xbf, by omega, by omega, by rw [if_neg (by omega), if_pos (by omega)]⟩

/-- A first byte that owes others shows nothing yet. -/
theorem decodeFrom_lead {b : UInt8} {s : State} (h : begin b = ([], s)) (bs : List UInt8) :
    decodeFrom .between (b :: bs) = decodeFrom s bs := by
  simp only [decodeFrom, step, h, List.nil_append]

end Utf8

open Utf8 in
/-- A character is read back from its bytes, whatever comes behind them. -/
theorem decodeFrom_encodeChar (c : Char) (bs : List UInt8) :
    decodeFrom .between (encodeChar c ++ bs) = c :: decodeFrom .between bs := by
  have hvalid := toNat_valid c
  have hc : ∀ n, n = c.toNat → Char.ofNat n = c := fun n hn => hn ▸ Char.ofNat_toNat c
  simp only [encodeChar]
  split
  · next h =>
    have hbyte : (UInt8.ofNat c.toNat).toNat = c.toNat := toNat_ofNat (by omega)
    simp only [List.singleton_append, decodeFrom, step, begin, hbyte, h, if_true, hc _ rfl]
  · split
    · rw [List.cons_append, decodeFrom_lead (begin_two (by omega) (by omega)), List.singleton_append,
        decodeFrom_last (by omega) (by omega), hc _ (by omega)]
    · split
      · obtain ⟨low, high, hlow, hhigh, hlead⟩ :=
          begin_three (n := c.toNat) (by omega) (by omega) (by omega)
        rw [List.cons_append, decodeFrom_lead hlead, List.cons_append,
          decodeFrom_continuation (by omega) hlow hhigh, List.singleton_append,
          decodeFrom_last (by omega) (by omega), hc _ (by omega)]
      · obtain ⟨low, high, hlow, hhigh, hlead⟩ := begin_four (n := c.toNat) (by omega) (by omega)
        rw [List.cons_append, decodeFrom_lead hlead, List.cons_append,
          decodeFrom_continuation (by omega) hlow hhigh, List.cons_append,
          decodeFrom_continuation (by omega) (by omega) (by omega), List.singleton_append,
          decodeFrom_last (by omega) (by omega), hc _ (by omega)]

/-- Characters are read back from their bytes. -/
theorem decode_encode (cs : List Char) : decode (encode cs) = cs := by
  induction cs with
  | nil => rfl
  | cons c cs ih =>
    have hsplit : encode (c :: cs) = encodeChar c ++ encode cs := rfl
    rw [decode, hsplit, decodeFrom_encodeChar]
    exact congrArg (c :: ·) ih

/-- A text is read back from its bytes. -/
theorem ofBytes_bytes (s : String) : ofBytes (bytes s) = s := by
  rw [ofBytes, bytes, decode_encode, String.ofList_toList]

/-! ### The bytes of a string -/

theorem encodeChar_eq_utf8EncodeChar (c : Char) : encodeChar c = String.utf8EncodeChar c := by
  have hvalid := toNat_valid c
  have hle (n : Nat) : c.toNat ≤ n ↔ c.toNat < n + 1 := Nat.lt_succ_iff.symm
  have hbyte {m n : Nat} (h : m = n) : UInt8.ofNat m = UInt8.ofNat n := congrArg _ h
  simp only [encodeChar, String.utf8EncodeChar, continuation, Char.toNat_val, hle, Nat.reduceAdd]
  split
  · rfl
  · split
    · simp only [List.cons.injEq, and_true]
      exact ⟨hbyte (by omega), hbyte (by omega)⟩
    · split
      · simp only [List.cons.injEq, and_true]
        exact ⟨hbyte (by omega), hbyte (by omega), hbyte (by omega)⟩
      · simp only [List.cons.injEq, and_true]
        exact ⟨hbyte (by omega), hbyte (by omega), hbyte (by omega), hbyte (by omega)⟩

/-- The bytes of a text are those that its string is made of. -/
theorem bytes_eq_toUTF8 (s : String) : bytes s = s.toUTF8.data.toList := by
  have hbytes : s.toUTF8 = s.toList.utf8Encode := by simp [String.toUTF8]
  rw [hbytes, List.utf8Encode, bytes, encode, funext encodeChar_eq_utf8EncodeChar]
  simp

/-! ### Cutting at newlines -/

theorem splitOn_append_of_notMem {l : List UInt8} (h : newline ∉ l) (bs : List UInt8) :
    (l ++ bs).splitOn newline = (bs.splitOn newline).modifyHead (l ++ ·) := by
  induction l with
  | nil => exact (congrFun List.modifyHead_id _).symm
  | cons b l ih =>
    obtain ⟨hb, hl⟩ := not_or.mp (mt List.mem_cons.mpr h)
    rw [List.cons_append, List.splitOn_cons_eq_if_modifyHead, if_neg (by simpa using Ne.symm hb),
      ih hl, List.modifyHead_modifyHead]
    rfl

/-- The bytes of a text are cut where the text is. -/
theorem splitOn_encode (cs : List Char) :
    (encode cs).splitOn newline = (cs.splitOn '\n').map encode := by
  induction cs with
  | nil => rfl
  | cons c cs ih =>
    have hsplit : encode (c :: cs) = encodeChar c ++ encode cs := rfl
    by_cases hc : c = '\n'
    · subst hc
      have hbytes : encodeChar '\n' = [newline] := by decide
      rw [hsplit, hbytes, List.singleton_append, List.splitOn_cons_eq_if_modifyHead,
        List.splitOn_cons_eq_if_modifyHead, ih]
      rfl
    · have hnone : newline ∉ encodeChar c := fun h => hc ((newline_mem_encodeChar c).mp h)
      rw [hsplit, splitOn_append_of_notMem hnone, ih, List.splitOn_cons_eq_if_modifyHead,
        if_neg (by simpa using hc)]
      cases cs.splitOn '\n' <;> rfl

end Logbook.Text
