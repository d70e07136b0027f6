/-
# What a buffer keeps

However few bytes a buffer takes at a time, writing all of them leaves all of them in it, in order,
behind what it held; a buffer that cannot be written to keeps what it held. So a delivery adds either
all of its bytes or none, whether or not the flush after it fails.

Key definitions: `Buffer.keeping`.
Key theorems: `Buffer.writeAll_eq`, `Buffer.deliver_content`.
-/
import Logbook.Device

namespace Logbook.Buffer

/-- A buffer that keeps more bytes. -/
def keeping (bs : List UInt8) (b : Buffer) : Buffer := { b with content := b.content ++ bs }

@[simp] theorem keeping_nil (b : Buffer) : b.keeping [] = b := by simp [keeping]

theorem keeping_keeping (xs ys : List UInt8) (b : Buffer) :
    (b.keeping xs).keeping ys = b.keeping (xs ++ ys) := by
  have happend : b.content ++ xs ++ ys = b.content ++ (xs ++ ys) := Array.ext' (by simp)
  simp only [keeping, happend]

theorem toList_content_keeping (bs : List UInt8) (b : Buffer) :
    (b.keeping bs).content.toList = b.content.toList ++ bs := by
  simp [keeping]

/-- What a buffer takes of some bytes at a time. -/
def portion (b : Buffer) (bs : List UInt8) : List UInt8 :=
  if b.chunk = 0 then bs else bs.take b.chunk

theorem write_of_fails {b : Buffer} (h : b.failsWrites = true) (bs : List UInt8) :
    write bs b = (.error .diskFull, b) := by
  simp [write, h]

theorem write_eq {b : Buffer} (h : b.failsWrites = false) (bs : List UInt8) :
    write bs b = (.ok (b.portion bs).length, b.keeping (b.portion bs)) := by
  simp [write, h, portion, keeping]

/-- A portion is a beginning, and there is something in it if there are bytes at all. -/
theorem portion_eq_take (b : Buffer) (bs : List UInt8) :
    b.portion bs = bs.take (b.portion bs).length ∧ (bs ≠ [] → b.portion bs ≠ []) := by
  unfold portion
  split
  · simp
  · next hc =>
    refine ⟨by rw [List.length_take, List.take_eq_take_iff]; omega, fun hbs => ?_⟩
    simp [hc, hbs]

theorem writeAll_of_fails {b : Buffer} (h : b.failsWrites = true) {bs : List UInt8}
    (hbs : bs ≠ []) : device.writeAll bs b = (.error .diskFull, b) := by
  cases bs with
  | nil => exact absurd rfl hbs
  | cons c bs => rw [Device.writeAll]; simp only [device, write_of_fails h]

/-- Writing all bytes leaves them all in the buffer. -/
theorem writeAll_eq : ∀ (bs : List UInt8) {b : Buffer}, b.failsWrites = false →
    device.writeAll bs b = (.ok (), b.keeping bs)
  | [], b, _ => by rw [Device.writeAll, keeping_nil]
  | c :: bs, b, h => by
    obtain ⟨hportion, hne⟩ := b.portion_eq_take (c :: bs)
    obtain ⟨n, hn⟩ : ∃ n, (b.portion (c :: bs)).length = n + 1 :=
      Nat.exists_eq_succ_of_ne_zero (by simpa using hne (by simp))
    have hdrop : (b.portion (c :: bs)) ++ bs.drop n = c :: bs := by
      rw [hportion, hn, List.take_succ_cons, List.cons_append, List.take_append_drop]
    rw [Device.writeAll]
    simp only [device, write_eq h, hn]
    have hrest := writeAll_eq (bs.drop n) (b := b.keeping (b.portion (c :: bs))) h
    rw [device] at hrest
    rw [hrest, keeping_keeping, hdrop]
  termination_by bs => bs.length
  decreasing_by simp only [List.length_drop, List.length_cons]; omega

/-- A delivery to a buffer that can be written to leaves its bytes there, also when the flush
fails. -/
theorem deliver_content {b : Buffer} (h : b.failsWrites = false) (bs : List UInt8) (n : Nat) :
    ((⟨b, n⟩ : Tally Buffer).deliver device bs).device = b.keeping bs := by
  have hflush : device.flush (b.keeping bs) = (b.keeping bs).flush := rfl
  simp only [Tally.deliver, Device.deliver, writeAll_eq bs h, hflush, flush]
  by_cases hf : (b.keeping bs).failsFlushes = true
  · rw [if_pos hf]
  · rw [if_neg hf]

end Logbook.Buffer
