/-
# Documents are read back

The words of a document, put together, are the document again, whatever is still open around it. With what
the cutter does this says that a document is read from each of its spellings, and so also from the one it
is written in.

Key theorems: `Value.build?_tokens`, `Value.parse?_of_spells`, `Value.parse?_render`.
-/
import Logbook.Proofs.Json.Cutter

namespace Logbook.Json.Value

theorem build?_cons {stack stack' : List Open} {spot spot' : Spot} {t : Token}
    (h : step? stack spot t = some (stack', spot')) (ts : List Token) :
    build? stack spot (t :: ts) = build? stack' spot' ts := by
  rw [build?, h]

/-- Where the end of a list may come, a value may come as well. -/
theorem build?_firstItem (v : Value) (stack : List Open) (ts : List Token) :
    build? (.list [] :: stack) .firstItem (v.tokens ++ ts) =
      build? (.list [] :: stack) .value (v.tokens ++ ts) := by
  rcases v with _ | _ | _ | _ | ⟨_ | _⟩ | ⟨_ | _⟩ <;> rfl

mutual

/-- The words of a value make up the value. -/
theorem build?_tokens (v : Value) (stack : List Open) (ts : List Token) :
    build? stack .value (v.tokens ++ ts) = build? stack (.after v) ts := by
  match v with
  | .null | .flag _ | .numeral _ | .words _ => rfl
  | .list [] => rfl
  | .list (v :: vs) =>
    have hopen : step? stack .value .openList = some (.list [] :: stack, .firstItem) := rfl
    simp only [tokens, List.cons_append, List.append_assoc, List.nil_append]
    rw [build?_cons hopen, build?_firstItem, build?_tokens v, build?_itemTokens vs]
    rfl
  | .object [] => rfl
  | .object (m :: ms) =>
    have hopen : step? stack .value .openObject = some (stack, .firstName) := rfl
    have hname : step? stack .firstName (.words m.1) = some (stack, .colon [] m.1) := rfl
    have hcolon : step? stack (.colon [] m.1) .colon = some (.object [] m.1 :: stack, .value) := rfl
    simp only [tokens, List.cons_append, List.append_assoc, List.nil_append]
    rw [build?_cons hopen, build?_cons hname, build?_cons hcolon, build?_tokens m.2,
      build?_memberTokens ms]
    rfl

/-- The items behind a value complete the list that it stands in. -/
theorem build?_itemTokens (vs : List Value) (items : List Value) (v : Value) (stack : List Open)
    (ts : List Token) :
    build? (.list items :: stack) (.after v) (itemTokens vs ++ .closeList :: ts) =
      build? stack (.after (.list (items.reverse ++ v :: vs))) ts := by
  match vs with
  | [] =>
    have hclose : step? (.list items :: stack) (.after v) .closeList =
        some (stack, .after (.list (items.reverse ++ [v]))) := by
      rw [← List.reverse_cons]
      rfl
    exact build?_cons hclose ts
  | w :: ws =>
    have hcomma : step? (.list items :: stack) (.after v) .comma =
        some (.list (v :: items) :: stack, .value) := rfl
    simp only [itemTokens, List.cons_append, List.append_assoc]
    rw [build?_cons hcomma, build?_tokens w, build?_itemTokens ws, List.reverse_cons, List.append_assoc,
      List.singleton_append]

/-- The members behind a member complete the object that it stands in. -/
theorem build?_memberTokens (ms : List (Words × Value)) (members : List (Words × Value)) (m : Words × Value)
    (stack : List Open) (ts : List Token) :
    build? (.object members m.1 :: stack) (.after m.2) (memberTokens ms ++ .closeObject :: ts) =
      build? stack (.after (.object (members.reverse ++ m :: ms))) ts := by
  match ms with
  | [] =>
    have hclose : step? (.object members m.1 :: stack) (.after m.2) .closeObject =
        some (stack, .after (.object (members.reverse ++ [m]))) := by
      rw [← List.reverse_cons]
      rfl
    exact build?_cons hclose ts
  | n :: ns =>
    have hcomma : step? (.object members m.1 :: stack) (.after m.2) .comma =
        some (stack, .nextName (m :: members)) := rfl
    have hname : step? stack (.nextName (m :: members)) (.words n.1) =
        some (stack, .colon (m :: members) n.1) := rfl
    have hcolon : step? stack (.colon (m :: members) n.1) .colon =
        some (.object (m :: members) n.1 :: stack, .value) := rfl
    simp only [memberTokens, List.cons_append, List.append_assoc]
    rw [build?_cons hcomma, build?_cons hname, build?_cons hcolon, build?_tokens n.2,
      build?_memberTokens ns, List.reverse_cons, List.append_assoc, List.singleton_append]

end

/-- **A document is read from each of its spellings.** -/
theorem parse?_of_spells {v : Value} {s : String} (h : Spells v s) : parse? s = some v := by
  have hbuild : build? [] .value (v.tokens ++ []) = some v := build?_tokens v [] []
  rw [parse?, tokens?_of_spells h, Option.bind_some, ofTokens?, ← List.append_nil v.tokens, hbuild]

/-- **A document that is written is read back.** -/
theorem parse?_render (v : Value) : parse? v.render = some v := parse?_of_spells (spells_render v)

end Logbook.Json.Value
