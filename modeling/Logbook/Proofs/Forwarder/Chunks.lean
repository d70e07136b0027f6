/-
# Text comes out of a forwarder line by line

Text that is written to a forwarder may be cut into writes anywhere, also inside a character. Nothing of
that can be seen in its records: while the gate is open they are those of the text's lines, character by
character as they were written.

The bytes are put together before they are cut, a newline is never a byte of another character, and what
lies between two newlines of a text's bytes is the bytes of what lies between two newlines of the text.

Key definitions: `Text.lines`, `Forwarder.saying`.
Key theorems: `cutLines_append`, `cutAll_bytes`, `Forwarder.runAll_writes`, `Forwarder.runToEnd_eq_lines`.
-/
import Logbook.Proofs.Forwarder.Run
import Logbook.Proofs.Text.Utf8

namespace Logbook

/-! ### Lines -/

namespace Text

/-- The pieces of a text between its newlines, without the last one if nothing is in it. -/
def lines (s : String) : List String :=
  let pieces := (s.toList.splitOn '\n').map String.ofList
  if pieces.getLast? = some "" then pieces.dropLast else pieces

/-- The pieces between newlines hold every other character, in order. -/
theorem flatten_splitOn (cs : List Char) :
    (cs.splitOn '\n').flatten = cs.filter fun c => c ≠ '\n' := by
  induction cs with
  | nil => rfl
  | cons c cs ih =>
    rw [List.splitOn_cons_eq_if_modifyHead, List.filter_cons, ← ih]
    by_cases hc : c = '\n'
    · simp [hc]
    · cases h : cs.splitOn '\n' with
      | nil => exact absurd h (List.splitOn_ne_nil _ _)
      | cons piece pieces => simp [hc]

/-- The pieces of a text, the last one apart. -/
theorem exists_pieces (s : String) : ∃ pieces last, s.toList.splitOn '\n' = pieces ++ [last] :=
  ⟨_, _, (List.dropLast_concat_getLast (List.splitOn_ne_nil '\n' s.toList)).symm⟩

theorem lines_eq {s : String} {pieces : List (List Char)} {last : List Char}
    (h : s.toList.splitOn '\n' = pieces ++ [last]) :
    lines s = (pieces ++ if last = [] then [] else [last]).map String.ofList := by
  have hempty : String.ofList last = "" ↔ last = [] := by
    rw [← String.ofList_nil, String.ofList_inj]
  simp only [lines, h, List.map_append, List.map_singleton, List.getLast?_concat, Option.some.injEq,
    List.dropLast_concat, hempty]
  split
  · simp
  · rfl

/-- The lines of a text hold all its characters but the newlines, in order. -/
theorem flatMap_lines (s : String) :
    (lines s).flatMap String.toList = s.toList.filter fun c => c ≠ '\n' := by
  obtain ⟨pieces, last, h⟩ := exists_pieces s
  have hlast : (if last = [] then [] else [last]).flatten = last := by
    split
    · next he => exact he.symm
    · simp
  have hall := flatten_splitOn s.toList
  rw [h, List.flatten_append, List.flatten_singleton] at hall
  rw [lines_eq h, List.flatMap_map, ← hall]
  simp only [String.toList_ofList, List.flatMap_id', List.flatten_append, hlast]

end Text

/-! ### Cutting bytes that come in parts -/

/-- Bytes can be cut part by part, what is held being handed on. -/
theorem cutLines_append (as bs : List UInt8) : ∀ held : List UInt8,
    cutLines held (as ++ bs) =
      ((cutLines held as).1 ++ (cutLines (cutLines held as).2 bs).1,
        (cutLines (cutLines held as).2 bs).2) := by
  induction as with
  | nil => intro held; simp
  | cons a as ih =>
    intro held
    rw [List.cons_append, cutLines_cons, cutLines_cons]
    by_cases ha : a = newline
    · simp only [if_pos ha, ih, List.cons_append]
    · simp only [if_neg ha, ih]

/-- The lines that are cut and what is left over are the pieces between the newlines. -/
theorem splitOn_eq_cutLines (bs : List UInt8) : ∀ {held : List UInt8}, newline ∉ held →
    (held ++ bs).splitOn newline = (cutLines held bs).1 ++ [(cutLines held bs).2] := by
  induction bs with
  | nil => intro held h; simp [List.splitOn_eq_singleton h]
  | cons b bs ih =>
    intro held h
    rw [cutLines_cons]
    by_cases hb : b = newline
    · rw [if_pos hb, hb, List.splitOn_append_cons_self_of_not_mem h, List.cons_append,
        ← ih List.not_mem_nil]
      rfl
    · rw [if_neg hb, ← ih, List.append_assoc]
      · rfl
      · intro hm
        rcases List.mem_append.mp hm with hm | hm
        · exact h hm
        · exact hb (List.mem_singleton.mp hm).symm

/-- Everything that is cut off bytes, what is left over included. -/
def cutAll (held bs : List UInt8) : List (List UInt8) :=
  (cutLines held bs).1 ++ if (cutLines held bs).2 = [] then [] else [(cutLines held bs).2]

/-- Cutting the bytes of a text gives the bytes of its lines. -/
theorem cutAll_bytes (s : String) : cutAll [] (Text.bytes s) = (Text.lines s).map Text.bytes := by
  obtain ⟨pieces, last, h⟩ := Text.exists_pieces s
  have hcut : (cutLines [] (Text.bytes s)).1 ++ [(cutLines [] (Text.bytes s)).2] =
      pieces.map Text.encode ++ [Text.encode last] := by
    rw [← splitOn_eq_cutLines _ List.not_mem_nil, List.nil_append, Text.bytes, Text.splitOn_encode, h,
      List.map_append, List.map_singleton]
  obtain ⟨hlines, hrest⟩ := List.append_inj' hcut rfl
  have hempty : Text.encode last = [] ↔ last = [] := by
    refine ⟨fun he => ?_, fun he => by rw [he]; rfl⟩
    rw [← Text.decode_encode last, he]
    rfl
  rw [cutAll, hlines, (List.cons.inj hrest).1, Text.lines_eq h, List.map_map]
  simp only [hempty, List.map_append]
  congr 1
  · exact List.map_congr_left fun piece _ => by simp [Text.bytes]
  · split
    · rfl
    · simp [Text.bytes]

/-! ### Records of lines -/

namespace Forwarder

/-- The record that stands for a line of text. -/
def saying (f : Forwarder) (line : String) : Record := { f.reported [] with message := line }

theorem reported_bytes (f : Forwarder) (line : String) :
    f.reported (Text.bytes line) = f.saying line := by
  simp only [reported, saying, Text.ofBytes_bytes]

/-- The gate of a forwarder is open. -/
def Open (f : Forwarder) (x : Facility) : Prop := f.level ≠ .off ∧ f.level ≤ x.levelFor f

theorem Open.of_bearings {f : Forwarder} {x y : Facility} (h : f.Open x)
    (hy : y.bearings = x.bearings) : f.Open y :=
  ⟨h.1, (Facility.levelFor_of_bearings hy f).symm ▸ h.2⟩

/-- Hands segments over, one after the other. -/
def handOver (f : Forwarder) (segments : List (List UInt8)) : Act Facility Unit :=
  Act.each (fun segment => Facility.deliver f.sink (f.reported segment)) segments

theorem handOver_append (f : Forwarder) (segments rest : List (List UInt8)) :
    f.handOver (segments ++ rest) = (f.handOver segments >>= fun _ => f.handOver rest) :=
  Act.each_append _ segments rest

theorem handOver_keeps (f : Forwarder) (segments : List (List UInt8)) :
    Act.Keeps Facility.bearings (f.handOver segments) :=
  Act.Keeps.each (fun segment => Facility.deliver_keeps f.sink (f.reported segment)) segments

/-- Segments that are cut while the gate is open are handed over. -/
theorem each_perform_of_open {f : Forwarder} {l : Level} (h : f.level ≠ .off ∧ f.level ≤ l)
    (segments : List (List UInt8)) :
    Act.each (Deed.perform f) (segments.map fun segment => .cut segment l) = f.handOver segments := by
  have hcut (segment : List UInt8) :
      (Deed.cut segment l).perform f = Facility.deliver f.sink (f.reported segment) := if_pos h
  rw [Act.each_map, funext hcut, handOver]

theorem each_emit_of_open {f : Forwarder} {x : Facility} (h : f.Open x) (held : List UInt8)
    (lines : List (List UInt8)) :
    Act.each (emit Facility.outlet (f.holding held)) lines x = f.handOver lines x := by
  rw [each_emit_eq (f.holding held) (l := x.levelFor f) lines rfl, funext (perform_holding f held),
    each_perform_of_open h]

/-- How writes end, given how handing their segments over ended: what comes after the last cut is held,
or nothing if a segment was not taken. -/
def written {α : Type} (f : Forwarder) (rest : List UInt8) (answer : α)
    (r : Outcome Unit × Facility) : Outcome α × (Forwarder × Facility) :=
  match r with
  | (.done (), y) => (.done answer, (f.holding rest, y))
  | (.raised m, y) => (.raised m, (f.holding [], y))
  | (.aborted, y) => (.aborted, (f.holding [], y))

theorem write_of_open {f : Forwarder} {x : Facility} (h : f.Open x) (held bs : List UInt8) :
    (Call.write bs).run (f.holding held, x) =
      f.written (cutLines held bs).2 (some bs.length) (f.handOver (cutLines held bs).1 x) := by
  rw [← each_emit_of_open h held]
  simp only [Call.run, Act.bind_run, write, pending_holding]
  rcases Act.each (emit Facility.outlet (f.holding held)) (cutLines held bs).1 x with ⟨_ | _ | _, y⟩ <;>
    rfl

/-- Where one write ends and the next begins plays no part: while the gate is open, writes hand over what
is cut off their bytes as a whole. -/
theorem runAll_writes {f : Forwarder} (chunks : List (List UInt8)) :
    ∀ (held : List UInt8) {x : Facility}, f.Open x →
      runAll (chunks.map .write) (f.holding held, x) =
        f.written (cutLines held chunks.flatten).2 (chunks.map fun bs => some bs.length)
          (f.handOver (cutLines held chunks.flatten).1 x) := by
  induction chunks with
  | nil => intro held x _; simp [runAll, written, handOver, Act.each, Act.pure]
  | cons bs chunks ih =>
    intro held x h
    have hkeep := handOver_keeps f (cutLines held bs).1 x
    rw [List.map_cons, runAll, Act.bind_run, write_of_open h, List.flatten_cons, cutLines_append,
      handOver_append, Act.bind_run]
    generalize f.handOver (cutLines held bs).1 x = r at hkeep ⊢
    rcases r with ⟨_ | _ | _, y⟩
    · simp only [written, Act.bind_run, ih _ (h.of_bearings hkeep), List.map_cons]
      rcases f.handOver (cutLines (cutLines held bs).2 chunks.flatten).1 y with ⟨_ | _ | _, z⟩ <;> rfl
    · rfl
    · rfl

/-- Giving a forwarder up hands over what it holds, if it holds anything. -/
theorem giveUp_of_open {f : Forwarder} {x : Facility} (h : f.Open x) (held : List UInt8) :
    Writer.giveUp (.forwarder (f.holding held)) x =
      f.handOver (if held = [] then [] else [held]) x := by
  by_cases hheld : held = []
  · subst hheld
    rfl
  · have hne : held.isEmpty = false := by simpa using hheld
    rw [if_neg hheld, ← each_emit_of_open h held, Act.each_singleton]
    simp only [Writer.giveUp, flush, pending_holding, hne, Bool.false_eq_true, if_false]

/-- From its start to its end, a forwarder whose gate is open hands over all that is cut off the bytes
that were written to it. -/
theorem runToEnd_writes {f : Forwarder} {x : Facility} (hpending : f.pending = []) (h : f.Open x)
    (chunks : List (List UInt8)) :
    runToEnd f (chunks.map .write) x =
      (f.handOver (cutAll [] chunks.flatten) >>= fun _ => pure (chunks.map fun bs => some bs.length))
        x := by
  have hf : f = f.holding [] := by rw [← hpending, holding_pending]
  have hkeep := handOver_keeps f (cutLines [] chunks.flatten).1 x
  have hrun := runAll_writes chunks [] h
  rw [← hf] at hrun
  rw [runToEnd, hrun, cutAll, handOver_append, Act.bind_run, Act.bind_run]
  generalize f.handOver (cutLines [] chunks.flatten).1 x = r at hkeep ⊢
  rcases r with ⟨_ | _ | _, y⟩
  · simp only [written, Act.bind_run, giveUp_of_open (h.of_bearings hkeep)]
  · rfl
  · rfl

/-- **Text comes out line by line.** Let a forwarder whose gate is open and that holds nothing yet be
given the bytes of a text, cut into writes in any way, also inside a character, and then be given up. Then
the run does to the facility exactly what handing over one record for each line of the text does, in
order, up to the first that does not return, whatever the sink is; a memory sink takes all of them. The
message of a record is the line itself: the messages together hold the characters of the text in order,
but for its newlines, and so none that is not in it. -/
theorem runToEnd_eq_lines (f : Forwarder) (t : String) (chunks : List (List UInt8)) (x : Facility)
    (hpending : f.pending = []) (hopen : f.level ≠ .off ∧ f.level ≤ x.levelFor f)
    (hchunks : chunks.flatten = t.toUTF8.data.toList) :
    runToEnd f (chunks.map .write) x =
        (Act.each (fun line => Facility.deliver f.sink (f.saying line)) (Text.lines t) >>= fun _ =>
          pure (chunks.map fun bs => some bs.length)) x ∧
      (∀ k rs, f.sink = some k → k.index < x.sinks.items.size → x.sinks.get k = .memory rs →
        ∃ y, runToEnd f (chunks.map .write) x = (.done (chunks.map fun bs => some bs.length), y) ∧
          y.sinks.get k = .memory (rs ++ ((Text.lines t).map f.saying).toArray)) ∧
      (Text.lines t).flatMap String.toList = t.toList.filter fun c => c ≠ '\n' := by
  have hlines : f.handOver (cutAll [] chunks.flatten) =
      Act.each (fun line => Facility.deliver f.sink (f.saying line)) (Text.lines t) := by
    rw [hchunks, ← Text.bytes_eq_toUTF8, cutAll_bytes, handOver, Act.each_map]
    simp only [reported_bytes]
  have hrun := runToEnd_writes hpending hopen chunks
  refine ⟨hlines ▸ hrun, fun k rs hk hin hmem => ?_, Text.flatMap_lines t⟩
  obtain ⟨y, hy, hkept⟩ := each_perform_memory hk
    ((cutAll [] chunks.flatten).map fun segment => .cut segment (x.levelFor f)) hin hmem
  rw [each_perform_of_open hopen] at hy
  refine ⟨y, by rw [hrun, Act.bind_of_done _ hy]; rfl, ?_⟩
  have hrecord (segment : List UInt8) :
      (Deed.cut segment (x.levelFor f)).record? f = some (f.reported segment) := if_pos hopen
  have hrecords : ((Text.lines t).map Text.bytes).filterMap (fun segment => some (f.reported segment)) =
      (Text.lines t).map f.saying := by
    have hsaid : (fun segment => some (f.reported segment)) ∘ Text.bytes = some ∘ f.saying :=
      funext fun line => congrArg some (reported_bytes f line)
    rw [List.filterMap_map, hsaid, List.filterMap_eq_map]
  rw [hkept, hchunks, ← Text.bytes_eq_toUTF8, cutAll_bytes, List.filterMap_map]
  simp only [Function.comp_def, hrecord, hrecords]

/-- A carriage return, an empty line and a rest without a newline, with cuts inside two characters and
an empty write, into a memory sink. -/
theorem runToEnd_eq_lines_cut_inside_characters :
    let f : Forwarder := { ofLevel .warning ⟨"model", 1⟩ with sink := some ⟨0⟩ }
    let x : Facility := { Facility.start .recorder ⟨[]⟩ "" none with sinks := ⟨#[.memory #[]]⟩ }
    let chunks : List (List UInt8) :=
      [[0x61, 0xc3], [0xa9, 0x0d, 0x0a, 0x0a, 0xf0, 0x9f], [], [0x98, 0x80]]
    f.pending = [] ∧ (f.level ≠ .off ∧ f.level ≤ x.levelFor f) ∧
      chunks.flatten = "aé\r\n\n😀".toUTF8.data.toList ∧
      ∃ y, runToEnd f (chunks.map .write) x = (.done [some 2, some 6, some 0, some 2], y) ∧
        y.sinks.get ⟨0⟩ = .memory #[f.saying "aé\r", f.saying "", f.saying "😀"] := by
  intro f x chunks
  have hopen : f.level ≠ .off ∧ f.level ≤ x.levelFor f := by decide
  have hchunks : chunks.flatten = "aé\r\n\n😀".toUTF8.data.toList := by
    rw [← Text.bytes_eq_toUTF8]
    decide
  have hlines : Text.lines "aé\r\n\n😀" = ["aé\r", "", "😀"] := by decide
  obtain ⟨-, hmemory, -⟩ := runToEnd_eq_lines f "aé\r\n\n😀" chunks x rfl hopen hchunks
  obtain ⟨y, hrun, hkept⟩ := hmemory ⟨0⟩ #[] rfl (by decide) rfl
  rw [hlines] at hkept
  exact ⟨rfl, hopen, hchunks, y, hrun, hkept⟩

end Forwarder

end Logbook
