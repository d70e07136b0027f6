/-
# Facilities that can make their lines

The one thing that raises a message on the way of a record is a category column that is too wide. Where
the sink in force and the backend have columns that can be made, every event is carried and every record
that is not fatal is dispatched, and then the next one is as well (`Facility.dispatch_of_legible`). Which
sink is in force does not change on the way, and its layout does not either.

Key definitions: `Sink.Legible`, `Subscriber.Legible`, `Facility.Legible`.
Key theorems: `Facility.carry_formatter`, `Facility.carry_of_legible`, `Facility.dispatch_of_legible`.
-/
import Logbook.Proofs.Facility.Memory
import Logbook.Proofs.Layout.Line

namespace Logbook

/-- A sink can make the lines that it is to write. -/
def Sink.Legible : Sink → Prop
  | .lines k => k.formatter.layout.Fits
  | .memory _ | .events _ => True

instance (k : Sink) : Decidable k.Legible := by
  cases k <;> unfold Sink.Legible <;> infer_instance

/-- Whoever takes events can show them. -/
def Subscriber.Legible : Subscriber → Prop
  | .backend b => b.formatter.layout.Fits
  | .nobody | .recorder => True

instance (s : Subscriber) : Decidable s.Legible := by
  cases s <;> unfold Subscriber.Legible <;> infer_instance

/-- The formatter that events are shown with, if they are. -/
def Subscriber.formatter? : Subscriber → Option Formatter
  | .backend b => some b.formatter
  | .nobody | .recorder => none

theorem Subscriber.legible_iff {k : Subscriber} : k.Legible ↔ ∀ f ∈ k.formatter?, f.layout.Fits := by
  cases k <;> simp [Legible, formatter?]

theorem Event.lineOf_of_fits {x : Layout} (h : x.Fits) (m : Moment) (ansi : Bool) (e : Event) :
    e.lineOf x m ansi = .ok (x.text m (x.colored && ansi) e.record ++ "\n") := by
  rw [Event.lineOf, Layout.line_eq_text h]
  rfl

theorem lineReport_of_fits {δ : Type} (d : Device δ) (g : Registry) {x : Layout} (h : x.Fits) (m : Moment)
    (r : Record) (t : Tally δ) : ∃ t', lineReport d g x m r t = .ok t' := by
  simp only [lineReport, Layout.render, Layout.line_eq_text h]
  split
  · exact ⟨_, rfl⟩
  · exact ⟨_, rfl⟩

namespace Facility

/-- The sink in force and whoever takes events can make every line. -/
def Legible (x : Facility) : Prop :=
  x.subscriber.Legible ∧ ∀ s ∈ x.route, (x.sinks.get s).Legible

instance (x : Facility) : Decidable x.Legible :=
  inferInstanceAs (Decidable (x.subscriber.Legible ∧ ∀ s ∈ x.route, (x.sinks.get s).Legible))

theorem route_of_bearings {x y : Facility} (h : x.bearings = y.bearings) : x.route = y.route := by
  have hscopes : x.scopes = y.scopes := congrArg Bearings.scopes h
  have hsink : x.globalSink = y.globalSink := congrArg Bearings.globalSink h
  simp only [route, hscopes, hsink]

theorem writeLogFile_formatter {b : Backend} {x : Facility} (hb : x.subscriber = .backend b) (l : LogFile)
    (bs : List UInt8) : (x.writeLogFile b l bs).subscriber.formatter? = x.subscriber.formatter? := by
  unfold writeLogFile
  split
  · rfl
  · rw [hb]
    rfl

theorem display_formatter {b : Backend} (e : Event) {x : Facility} (hb : x.subscriber = .backend b) :
    (display b e x).2.subscriber.formatter? = x.subscriber.formatter? := by
  simp only [display]
  split
  · rfl
  · split
    · rfl
    · split
      · rfl
      · exact writeLogFile_formatter (x := x.print _) hb _ _

/-- Whoever takes events goes on showing them with the same formatter. -/
theorem carry_formatter (e : Event) : Act.Keeps (fun x : Facility => x.subscriber.formatter?) (carry e) := by
  intro x
  simp only [carry]
  split
  · rfl
  · rfl
  · next b hb =>
    split
    · exact display_formatter e hb
    · rfl

theorem carry_legible (e : Event) {x : Facility} (hx : x.subscriber.Legible) :
    (carry e x).2.subscriber.Legible := by
  rw [Subscriber.legible_iff] at hx ⊢
  rw [show (carry e x).2.subscriber.formatter? = x.subscriber.formatter? from carry_formatter e x]
  exact hx

/-- An event that can be shown is. -/
theorem carry_done (e : Event) {x : Facility} (hx : x.subscriber.Legible) : (carry e x).1 = .done () := by
  simp only [carry]
  split
  · rfl
  · rfl
  · next b hb =>
    have hfits : b.formatter.layout.Fits := by rw [hb] at hx; exact hx
    split
    · simp only [display, Event.lineOf_of_fits hfits]
      split <;> rfl
    · rfl

theorem carry_of_legible (e : Event) {x : Facility} (hx : x.Legible) :
    ∃ y, carry e x = (.done (), y) ∧ y.Legible := by
  refine ⟨(carry e x).2, Prod.ext (carry_done e hx.1) rfl, carry_legible e hx.1, ?_⟩
  rw [route_of_bearings (carry_keeps e x), show (carry e x).2.sinks = x.sinks from carry_sinks e x]
  exact hx.2

theorem settleLines_subscriber (s : Ref Sink) (k : LineSink) (t : Tally Buffer) (x : Facility) :
    (x.settleLines s k t).subscriber = x.subscriber := by
  simp only [settleLines]
  split <;> split <;> rfl

/-- A facility is still legible after a change of its sink in force to another legible one. -/
theorem Legible.of_put {x y : Facility} {s : Ref Sink} {k : Sink} (hx : x.Legible)
    (hs : x.route = some s) (hk : k.Legible) (hsubscriber : y.subscriber = x.subscriber)
    (hroute : y.route = x.route) (hsinks : y.sinks = x.sinks.put s k) : y.Legible := by
  refine ⟨by rw [hsubscriber]; exact hx.1, fun t ht => ?_⟩
  rw [hroute] at ht
  obtain rfl : s = t := Option.some.inj (hs.symm.trans ht)
  rw [hsinks]
  rcases Table.get_put_cases x.sinks s k with h | h
  · rw [h]; exact hk
  · rw [h]; exact hx.2 s ht

/-- A record that is not fatal is reported to the sink in force, and so can the next one be. -/
theorem report_of_legible {s : Ref Sink} {r : Record} (hr : r.severity ≠ .fatal) {x : Facility}
    (hx : x.Legible) (hs : x.route = some s) :
    ∃ y, report s r x = (.done (), y) ∧ y.Legible := by
  unfold report
  split
  · next records _ =>
    exact ⟨_, rfl, hx.of_put (k := .memory (records.push r)) hs trivial rfl rfl rfl⟩
  · next k hk =>
    have hlegible := hx.2 s hs
    rw [hk] at hlegible
    have hfits : k.formatter.layout.Fits := hlegible
    obtain ⟨t, ht⟩ := lineReport_of_fits Buffer.device (x.registryOf k.registry) hfits
      (x.moment k.formatter) r k.tally
    refine ⟨x.settleLines s k t, by simp only [writeLine, ht], ?_⟩
    exact hx.of_put (k := .lines { k with tally := t }) hs hfits (settleLines_subscriber s k t x)
      (route_of_bearings (settleLines_bearings s k t x)) (settleLines_sinks s k t x)
  · next k hk =>
    simp only [pass, if_neg hr, Act.bind_run, Act.inspect]
    split
    · obtain ⟨y, hcarry, hy⟩ := carry_of_legible (.ofRecord r) hx
      exact ⟨y, by rw [Act.bind_run, hcarry]; rfl, hy⟩
    · exact ⟨x, rfl, hx⟩

theorem dispatch_of_legible {r : Record} (hr : r.severity ≠ .fatal) {x : Facility} (hx : x.Legible) :
    ∃ y, dispatch r x = (.done (), y) ∧ y.Legible := by
  unfold dispatch
  split
  · next s hs => exact report_of_legible hr hx hs
  · exact carry_of_legible (.ofRecord r) hx

end Facility

end Logbook
