/-
# What the text of a stamp says

A stamp is written either as a number of cycles or as a decimal with three places and a unit. What such a
text denotes is said here by its form alone (`Denotes`), in nanoseconds and without rounding; no text
denotes two times (`Denotes.unique`). The text of a stamp with fewer than a thousand thousandths has that
form.

Key definitions: `Text.threeDigits`, `Stamp.Denotes`.
Key theorems: `Text.padStart_three`, `Stamp.text_time`, `Stamp.Denotes.unique`.
-/
import Mathlib.Data.Rat.Cast.Order
import Mathlib.Tactic.Ring
import Logbook.Stamp

namespace Logbook

namespace Text

/-- The last three digits of a number. -/
def threeDigits (n : Nat) : List Char :=
  [Nat.digitChar (n / 100 % 10), Nat.digitChar (n / 10 % 10), Nat.digitChar (n % 10)]

/-- A number below a thousand, brought to three places, is its three digits. -/
theorem padStart_three {n : Nat} (h : n < 1000) : padStart 3 '0' (toString n).toList = threeDigits n := by
  have htext : (toString n).toList = Nat.toDigits 10 n := Nat.toList_repr
  have hzero : Nat.digitChar 0 = '0' := rfl
  rw [htext, threeDigits]
  rcases Nat.lt_or_ge n 10 with hn | hn
  · have hhundreds : n / 100 % 10 = 0 := by omega
    have htens : n / 10 % 10 = 0 := by omega
    have hones : n % 10 = n := by omega
    rw [Nat.toDigits_of_lt_base hn, hhundreds, htens, hones, hzero]
    rfl
  · have hones : Nat.toDigits 10 n = Nat.toDigits 10 (n / 10) ++ [Nat.digitChar (n % 10)] :=
      Nat.toDigits_of_base_le (by decide) hn
    rcases Nat.lt_or_ge n 100 with hn' | hn'
    · have hhundreds : n / 100 % 10 = 0 := by omega
      have htens : n / 10 % 10 = n / 10 := by omega
      rw [hones, Nat.toDigits_of_lt_base (by omega : n / 10 < 10), hhundreds, htens, hzero]
      rfl
    · have htens : Nat.toDigits 10 (n / 10) =
          Nat.toDigits 10 (n / 10 / 10) ++ [Nat.digitChar (n / 10 % 10)] :=
        Nat.toDigits_of_base_le (by decide) (by omega)
      have hhundreds : n / 10 / 10 = n / 100 % 10 := by omega
      rw [hones, htens, hhundreds, Nat.toDigits_of_lt_base (by omega : n / 100 % 10 < 10)]
      rfl

theorem toDigits_injective {m n : Nat} (h : Nat.toDigits 10 m = Nat.toDigits 10 n) : m = n := by
  have hread := congrArg (fun ds => Nat.ofDigitChars 10 ds 0) h
  simpa using hread

theorem digitChar_injective {m n : Nat} (hm : m < 10) (hn : n < 10)
    (h : Nat.digitChar m = Nat.digitChar n) : m = n := by
  have hcode : 48 + m = 48 + n := by
    rw [← Nat.toNat_digitChar_of_lt_ten hm, h, Nat.toNat_digitChar_of_lt_ten hn]
  omega

theorem threeDigits_injective {m n : Nat} (hm : m < 1000) (hn : n < 1000)
    (h : threeDigits m = threeDigits n) : m = n := by
  simp only [threeDigits, List.cons.injEq, and_true] at h
  obtain ⟨hhundreds, htens, hones⟩ := h
  have h1 : m / 100 % 10 = n / 100 % 10 := digitChar_injective (by omega) (by omega) hhundreds
  have h2 : m / 10 % 10 = n / 10 % 10 := digitChar_injective (by omega) (by omega) htens
  have h3 : m % 10 = n % 10 := digitChar_injective (by omega) (by omega) hones
  omega

end Text

theorem TimeUnit.sign_injective {u v : TimeUnit} (h : u.sign = v.sign) : u = v := by
  revert h
  cases u <;> cases v <;> decide

namespace Stamp

/-- The text of a decimal with three places and a unit. -/
def decimal (whole thousandths : Nat) (unit : TimeUnit) : String :=
  toString whole ++ "." ++ String.ofList (Text.threeDigits thousandths) ++ " " ++ unit.sign

/-- A text denotes a time in nanoseconds: in cycles of a given length, or in a unit, with exactly three
places behind the point. -/
def Denotes (text : String) (time : ℚ) : TimeDisplay → Prop
  | .cycles period => ∃ count : Nat, text = toString count ++ " cycles" ∧ time = count * period
  | .simTime => ∃ (whole thousandths : Nat) (unit : TimeUnit), thousandths < 1000 ∧
      text = decimal whole thousandths unit ∧ time = (whole + thousandths / 1000) * unit.nanoseconds

theorem text_time (whole : Nat) {thousandths : Nat} (h : thousandths < 1000) (unit : TimeUnit) :
    (Stamp.time whole thousandths unit).text = decimal whole thousandths unit := by
  rw [text, Text.padStart_three h, decimal]

/-- A decimal can be read back: its digits end at the point, and three more follow. -/
theorem decimal_injective {w w' f f' : Nat} {u u' : TimeUnit} (hf : f < 1000) (hf' : f' < 1000)
    (h : decimal w f u = decimal w' f' u') : w = w' ∧ f = f' ∧ u = u' := by
  have hlist : Nat.toDigits 10 w ++ '.' :: (Text.threeDigits f ++ ' ' :: u.sign.toList) =
      Nat.toDigits 10 w' ++ '.' :: (Text.threeDigits f' ++ ' ' :: u'.sign.toList) := by
    have htexts := congrArg String.toList h
    simpa [decimal, String.toList_append, Nat.toList_repr] using htexts
  have hdigits (n : Nat) (rest : List Char) :
      (Nat.toDigits 10 n ++ '.' :: rest).takeWhile Char.isDigit = Nat.toDigits 10 n := by
    rw [List.takeWhile_append_of_pos fun c hc => Nat.isDigit_of_mem_toDigits (by decide) (by decide) hc,
      List.takeWhile_cons_of_neg (by decide), List.append_nil]
  have hwhole : Nat.toDigits 10 w = Nat.toDigits 10 w' := by
    rw [← hdigits w, hlist, hdigits w']
  obtain ⟨-, hplaces⟩ := List.cons.inj (List.append_cancel_left (hwhole ▸ hlist))
  obtain ⟨hthree, hunit⟩ := List.append_inj hplaces rfl
  exact ⟨Text.toDigits_injective hwhole, Text.threeDigits_injective hf hf' hthree,
    TimeUnit.sign_injective (String.toList_inj.mp (List.cons.inj hunit).2)⟩

/-- A text denotes one time. -/
theorem Denotes.unique {text : String} {a b : ℚ} : ∀ {display : TimeDisplay},
    Denotes text a display → Denotes text b display → a = b
  | .cycles period => by
    rintro ⟨m, hm, rfl⟩ ⟨n, hn, rfl⟩
    have hcount : toString m = toString n := (String.append_left_inj " cycles").mp (hm.symm.trans hn)
    have hdigits : Nat.toDigits 10 m = Nat.toDigits 10 n := by
      simpa [Nat.toList_repr] using congrArg String.toList hcount
    rw [Text.toDigits_injective hdigits]
  | .simTime => by
    rintro ⟨w, f, u, hf, htext, rfl⟩ ⟨w', f', u', hf', htext', rfl⟩
    obtain ⟨rfl, rfl, rfl⟩ := decimal_injective hf hf' (htext.symm.trans htext')
    rfl

end Stamp

end Logbook
