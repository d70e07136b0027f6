/-
# What is said to a device

Bytes are delivered to a device in a conversation: it is offered what is left, again and again, until it
has taken everything, and then it is told to pass them on; the first call that fails, or that takes
nothing, ends the conversation. Whatever device it is, a delivery follows this rule (`Delivery`), and
listening in does not change it (`Device.deliver_overheard`). A delivery succeeds exactly if none of its
calls fails, and the device was told to pass on exactly if it took all of the bytes. Several deliveries
are one conversation after the other, and the failures that are counted are those of single
conversations (`Tally.deliverAll_overheard`).

Key definitions: `Exchange`, `Exchange.taken`, `Exchange.Fails`, `Delivery`, `Handover`,
`Device.overheard`, `Tally.deliverAll`.
Key theorems: `Device.deliver_overheard`, `Delivery.eq_ok_iff`, `Delivery.taken_eq`,
`Delivery.countP_isFlush`, `Tally.deliverAll_overheard`.
-/
import Logbook.Device

namespace Logbook

/-- A call of a device, and what it answered. -/
inductive Exchange where
  | write (offered : List UInt8) (answer : Except Fault Nat)
  | flush (answer : Except Fault Unit)

namespace Exchange

/-- The bytes that the device took. -/
def taken : Exchange → List UInt8
  | .write offered (.ok n) => offered.take n
  | _ => []

/-- Whether the device is told to pass on what it took. -/
def isFlush : Exchange → Bool
  | .write .. => false
  | .flush _ => true

/-- The device fails, or takes nothing of what it is offered. -/
def Fails : Exchange → Prop
  | .write _ (.ok n) => n = 0
  | .flush (.ok ()) => False
  | _ => True

instance Fails.decide : DecidablePred Fails
  | .write _ (.ok n) => inferInstanceAs (Decidable (n = 0))
  | .write _ (.error _) => .isTrue trivial
  | .flush (.ok ()) => .isFalse id
  | .flush (.error _) => .isTrue trivial

end Exchange

/-- How bytes are delivered, and how that ends. -/
inductive Delivery : List UInt8 → List Exchange → Except Fault Unit → Prop where
  /-- When nothing is left, the bytes are passed on, and that decides. -/
  | passedOn (answer : Except Fault Unit) : Delivery [] [.flush answer] answer
  | refused {bs : List UInt8} (h : bs ≠ []) (e : Fault) :
      Delivery bs [.write bs (.error e)] (.error e)
  | stuck {bs : List UInt8} (h : bs ≠ []) : Delivery bs [.write bs (.ok 0)] (.error .stuck)
  /-- What is left is offered next. -/
  | further {bs : List UInt8} {n : Nat} {es : List Exchange} {o : Except Fault Unit} (h : bs ≠ [])
      (rest : Delivery (bs.drop (n + 1)) es o) : Delivery bs (.write bs (.ok (n + 1)) :: es) o

namespace Delivery

variable {bs : List UInt8} {es : List Exchange} {o : Except Fault Unit}

/-- A delivery succeeds exactly if none of its calls fails. -/
theorem eq_ok_iff (h : Delivery bs es o) : o = .ok () ↔ ∀ e ∈ es, ¬ e.Fails := by
  induction h with
  | passedOn answer => rcases answer with _ | ⟨⟩ <;> simp [Exchange.Fails]
  | refused _ e => simp [Exchange.Fails]
  | stuck _ => simp [Exchange.Fails]
  | further _ _ ih => simp [ih, Exchange.Fails]

/-- The device was told to pass the bytes on, once, exactly if it took all of them. -/
theorem countP_isFlush (h : Delivery bs es o) :
    es.countP Exchange.isFlush = if es.flatMap Exchange.taken = bs then 1 else 0 := by
  induction h with
  | passedOn answer => simp [Exchange.isFlush, Exchange.taken]
  | refused h e => simp [Exchange.isFlush, Exchange.taken, Ne.symm h]
  | stuck h => simp [Exchange.isFlush, Exchange.taken, Ne.symm h]
  | @further bs n es o h rest ih =>
    have hwhole : bs.take (n + 1) ++ es.flatMap Exchange.taken = bs ↔
        es.flatMap Exchange.taken = bs.drop (n + 1) := by
      constructor
      · intro hw
        exact List.append_cancel_left (hw.trans (List.take_append_drop (n + 1) bs).symm)
      · intro hw
        rw [hw, List.take_append_drop]
    rw [List.countP_cons_of_neg (by simp [Exchange.isFlush]), ih, List.flatMap_cons, Exchange.taken]
    simp only [hwhole]

/-- A delivery that succeeds has handed all of the bytes over. -/
theorem taken_eq (h : Delivery bs es o) (ho : o = .ok ()) : es.flatMap Exchange.taken = bs := by
  induction h with
  | passedOn answer => simp [Exchange.taken]
  | refused _ e => simp at ho
  | stuck _ => simp at ho
  | further _ _ ih => rw [List.flatMap_cons, ih ho, Exchange.taken, List.take_append_drop]

end Delivery

/-- Bytes that are delivered, what is said to the device about them, and how that ends. -/
structure Handover where
  bytes : List UInt8
  said : List Exchange
  outcome : Except Fault Unit
  delivery : Delivery bytes said outcome

/-- Whether bytes could not be delivered. -/
def Handover.failed (h : Handover) : Bool := !h.outcome.isOk

namespace Handover

theorem failed_eq_false_iff (h : Handover) : h.failed = false ↔ ∀ e ∈ h.said, ¬ e.Fails := by
  rw [← h.delivery.eq_ok_iff, failed]
  rcases h.outcome with _ | ⟨⟩ <;> simp [Except.isOk, Except.toBool]

theorem failed_iff (h : Handover) : h.failed = true ↔ ∃ e ∈ h.said, e.Fails := by
  rw [← Bool.not_eq_false, h.failed_eq_false_iff]
  simp only [Classical.not_forall, Classical.not_not, exists_prop]

/-- Where no call fails, no delivery does, and the device has taken all of the bytes. -/
theorem taken_of_not_fails : ∀ {hs : List Handover},
    (∀ e ∈ hs.flatMap Handover.said, ¬ e.Fails) →
    hs.countP Handover.failed = 0 ∧
      (hs.flatMap Handover.said).flatMap Exchange.taken = hs.flatMap Handover.bytes
  | [], _ => ⟨rfl, rfl⟩
  | h :: hs, hfails => by
    simp only [List.flatMap_cons, List.mem_append, or_imp, forall_and] at hfails
    obtain ⟨hcount, htaken⟩ := taken_of_not_fails hfails.2
    have hfailed : h.failed = false := h.failed_eq_false_iff.mpr hfails.1
    refine ⟨by rw [List.countP_cons_of_neg (by simp [hfailed]), hcount], ?_⟩
    rw [List.flatMap_cons, List.flatMap_append, htaken, List.flatMap_cons,
      h.delivery.taken_eq (h.delivery.eq_ok_iff.mpr hfails.1)]

end Handover

namespace Device

variable {δ : Type}

/-- A device that notes what is said to it. -/
def overheard (d : Device δ) : Device (δ × List Exchange) where
  write bs := fun (s, log) =>
    let r := d.write bs s
    (r.1, (r.2, log ++ [.write bs r.1]))
  flush := fun (s, log) =>
    let r := d.flush s
    (r.1, (r.2, log ++ [.flush r.1]))

theorem deliver_nil (d : Device δ) (s : δ) : d.deliver [] s = d.flush s := by
  rw [deliver, writeAll]

theorem deliver_of_ne_nil (d : Device δ) {bs : List UInt8} (h : bs ≠ []) (s : δ) :
    d.deliver bs s =
      match d.write bs s with
      | (.error e, s) => (.error e, s)
      | (.ok 0, s) => (.error .stuck, s)
      | (.ok (n + 1), s) => d.deliver (bs.drop (n + 1)) s := by
  obtain ⟨b, bs, rfl⟩ := List.exists_cons_of_ne_nil h
  rw [deliver, writeAll]
  rcases d.write (b :: bs) s with ⟨_ | (_ | n), s'⟩ <;> rfl

/-- Listening in on a delivery does not change it, and what is heard is a delivery. -/
theorem deliver_overheard (d : Device δ) (bs : List UInt8) (s : δ) (log : List Exchange) :
    ∃ es, Delivery bs es (d.deliver bs s).1 ∧
      d.overheard.deliver bs (s, log) =
        ((d.deliver bs s).1, ((d.deliver bs s).2, log ++ es)) := by
  by_cases h : bs = []
  · subst h
    exact ⟨_, .passedOn _, by rw [deliver_nil, deliver_nil]; rfl⟩
  · rw [deliver_of_ne_nil d h, deliver_of_ne_nil d.overheard h]
    have hwrite : d.overheard.write bs (s, log) =
        ((d.write bs s).1, ((d.write bs s).2, log ++ [.write bs (d.write bs s).1])) := rfl
    rw [hwrite]
    rcases d.write bs s with ⟨e | (_ | n), s'⟩
    · exact ⟨_, .refused h e, rfl⟩
    · exact ⟨_, .stuck h, rfl⟩
    · obtain ⟨es, hes, hrun⟩ :=
        deliver_overheard d (bs.drop (n + 1)) s' (log ++ [.write bs (.ok (n + 1))])
      refine ⟨_, .further h hes, ?_⟩
      simp only [hrun, List.append_assoc, List.singleton_append]
  termination_by bs.length
  decreasing_by
    have := List.length_pos_iff.mpr h
    simp only [List.length_drop]
    omega

end Device

namespace Tally

variable {δ : Type}

/-- Delivers one thing after the other. -/
def deliverAll (d : Device δ) (bss : List (List UInt8)) (t : Tally δ) : Tally δ :=
  bss.foldl (fun t bs => t.deliver d bs) t

@[simp] theorem deliverAll_nil (d : Device δ) (t : Tally δ) : deliverAll d [] t = t := rfl

@[simp] theorem deliverAll_singleton (d : Device δ) (bs : List UInt8) (t : Tally δ) :
    deliverAll d [bs] t = t.deliver d bs := rfl

theorem deliverAll_append (d : Device δ) (as bs : List (List UInt8)) (t : Tally δ) :
    deliverAll d (as ++ bs) t = deliverAll d bs (deliverAll d as t) := List.foldl_append

theorem deliver_eq (d : Device δ) (bs : List UInt8) (t : Tally δ) :
    t.deliver d bs =
      ⟨(d.deliver bs t.device).2, t.failures + if (d.deliver bs t.device).1.isOk then 0 else 1⟩ := by
  rw [deliver]
  rcases d.deliver bs t.device with ⟨_ | ⟨⟩, s⟩ <;> rfl

/-- Listening in does not change a delivery, nor whether it counts as a failure. -/
theorem deliver_overheard (d : Device δ) (bs : List UInt8) (t : Tally δ) (log : List Exchange) :
    ∃ h : Handover, h.bytes = bs ∧
      (t.deliver d bs).failures = t.failures + (if h.failed then 1 else 0) ∧
      deliver d.overheard bs ⟨(t.device, log), t.failures⟩ =
        ⟨((t.deliver d bs).device, log ++ h.said), (t.deliver d bs).failures⟩ := by
  obtain ⟨es, hdelivery, hrun⟩ := d.deliver_overheard bs t.device log
  refine ⟨⟨bs, es, _, hdelivery⟩, rfl, ?_, ?_⟩
  · rw [deliver_eq, Handover.failed]
    cases (d.deliver bs t.device).1.isOk <;> rfl
  · rw [deliver_eq, deliver_eq, hrun]

/-- What is heard along deliveries is one conversation after the other, and each one that ends badly is
counted. -/
theorem deliverAll_overheard (d : Device δ) : ∀ (bss : List (List UInt8)) (t : Tally δ)
    (log : List Exchange), ∃ hs : List Handover, hs.map Handover.bytes = bss ∧
      (deliverAll d bss t).failures = t.failures + hs.countP Handover.failed ∧
      deliverAll d.overheard bss ⟨(t.device, log), t.failures⟩ =
        ⟨((deliverAll d bss t).device, log ++ hs.flatMap Handover.said),
          (deliverAll d bss t).failures⟩
  | [], t, log => ⟨[], rfl, rfl, by simp [deliverAll]⟩
  | bs :: bss, t, log => by
    obtain ⟨h, hbytes, hfailures, hrun⟩ := deliver_overheard d bs t log
    obtain ⟨hs, hrest, hcount, hruns⟩ := deliverAll_overheard d bss (t.deliver d bs) (log ++ h.said)
    refine ⟨h :: hs, by rw [List.map_cons, hbytes, hrest], ?_, ?_⟩
    · rw [List.countP_cons, ← Nat.add_assoc, Nat.add_right_comm, ← hfailures]
      exact hcount
    · rw [List.flatMap_cons, ← List.append_assoc]
      exact (congrArg (deliverAll d.overheard bss) hrun).trans hruns

end Tally

end Logbook
