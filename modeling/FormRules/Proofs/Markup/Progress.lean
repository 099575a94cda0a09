import FormRules.Document.Build
import FormRules.Proofs.Markup.Faults
import Mathlib.Control.Monad.Basic

/-!
# Progress of the reader

Reading goes round in two loops: over the tokens of a text, and inside a start tag over its parts.
Each turn leaves a proper end of the text in front of it, so it goes forward and never behind the
end of the text. The turn that could stand still is the one over junk in a tag: the first character
is neither white space nor the end of the tag, which were looked for before, so at least that one is
left out.

Both loops together are a machine whose steps are their turns. A start tag takes its angle bracket
and a name before the inner loop begins, so there is room for the turn that meets the end of the
text, and all turns together are no more than the characters.

* `Place`, `Place.turn`, `Place.run`: the places of the reader, one turn, and so many turns.
* `Place.turn_advances`: a turn goes forward in the text, as the turns of each loop do
  (`next_advances`, `nextPart_advances`).
* `Place.room_turn_lt`: a turn leaves less room.
* `Place.run_eq`: as many turns as there is room read all.
* `ofHtml_turns`: reading a text ends within as many turns as it has bytes.
-/

namespace FormRules

namespace Markup

/-! ## The readers step by step -/

theorem ok_of_bind {ε α β : Type} {x : Except ε α} {f : α → Except ε β} {b : β}
    (h : x >>= f = .ok b) : ∃ a, x = .ok a ∧ f a = .ok b := by
  cases x with
  | error e => cases h
  | ok a => exact ⟨a, rfl, h⟩

theorem readParts_eq (tag : String) (attributes : Attributes) (s : List Char) :
    readParts tag attributes s = (do
      match ← nextPart tag s with
      | (.close selfClosing, s) => return (attributes, selfClosing, s)
      | (.attribute name value, s) => readParts tag (attributes.insertNew name value) s
      | (.junk, s) => readParts tag attributes s) := by
  rw [readParts]
  split <;> (rename_i h; rw [h]; rfl)

/-- An element is read by its name, its parts and its content. -/
theorem readElement_eq (s : List Char) :
    Token.readElement s = (do
      let (name, s) ← readTagName s
      let (attributes, selfClosing, s) ← readParts name ∅ s
      StartTag.readContent ⟨name, attributes, selfClosing⟩ s) := by
  unfold Token.readElement readStartTag
  rcases readTagName s with fault | ⟨name, afterName⟩
  · rfl
  · show _ = Except.bind (readParts name ∅ afterName) _
    cases hparts : readParts name ∅ afterName <;> simp only [hparts] <;> rfl

theorem scan_eq_bind {s : List Char} (hs : s ≠ []) :
    Token.scan s = (do
      let (token, s) ← Token.next s
      let tokens ← Token.scan s
      return token.toList ++ tokens) := by
  rw [Token.scan_eq hs]
  rcases Token.next s with fault | ⟨token, rest⟩
  · rfl
  · dsimp only
    show _ = Except.bind (Token.scan rest) _
    cases Token.scan rest <;> rfl

/-! ## Both loops as one machine -/

/-- Where reading takes its turns: in the loop of `parse_html` or in that of `read_start_tag`. -/
inductive Place
  /-- At the next token. -/
  | content (s : List Char)
  /-- In a start tag, at its next part. -/
  | startTag (tag : String) (attributes : Attributes) (s : List Char)

/-- What stands behind the angle bracket of a start tag, where one begins. -/
def startTag? : List Char → Option (List Char)
  | '<' :: '/' :: _ => none
  | '<' :: '!' :: _ => none
  | '<' :: s => some s
  | _ => none

theorem eq_cons_of_startTag? {s rest : List Char} (h : startTag? s = some rest) :
    s = '<' :: rest := by
  unfold startTag? at h
  split at h <;> cases h
  rfl

theorem next_of_startTag? {s rest : List Char} (h : startTag? s = some rest) :
    Token.next s = (do
      let (token, s) ← Token.readElement rest
      return (some token, s)) := by
  unfold startTag? at h
  split at h
  · cases h
  · cases h
  · rename_i hslash hmark
    cases h
    unfold Token.next
    split
    · rename_i heq
      cases heq
      exact absurd rfl (hmark _)
    · rename_i heq
      cases heq
      exact absurd rfl (hslash _)
    · rename_i heq
      cases heq
      exact absurd rfl (hmark _)
    · rename_i heq
      cases heq
      cases Token.readElement rest <;> rfl
    · rename_i hother
      exact absurd rfl (hother _)
  · cases h

namespace Place

/-- The text that is still to be read. -/
def rest : Place → List Char
  | content s => s
  | startTag _ _ s => s

/-- One turn of the loop that the place is in: the token that is complete now, if any, and the next
place. -/
def turn : Place → Except MarkupFault (Option Token × Place)
  | content s =>
    match startTag? s with
    | some s => do
      let (tag, s) ← readTagName s
      return (none, startTag tag ∅ s)
    | none => do
      let (token, s) ← Token.next s
      return (token, content s)
  | startTag tag attributes s => do
    match ← nextPart tag s with
    | (.close selfClosing, s) =>
      let (token, s) ← StartTag.readContent ⟨tag, attributes, selfClosing⟩ s
      return (some token, content s)
    | (.attribute name value, s) => return (none, startTag tag (attributes.insertNew name value) s)
    | (.junk, s) => return (none, startTag tag attributes s)

/-- Reads all from a place on in at most so many turns. -/
def run : Nat → Place → Option (Except MarkupFault (List Token))
  | _, content [] => some (.ok [])
  | 0, _ => none
  | turns + 1, p =>
    match p.turn with
    | .error fault => some (.error fault)
    | .ok (token, p) => (run turns p).map fun outcome => outcome.map (token.toList ++ ·)

/-- What reading gives from a place on. -/
def outcome : Place → Except MarkupFault (List Token)
  | content s => Token.scan s
  | startTag tag attributes s => do
    let (attributes, selfClosing, s) ← readParts tag attributes s
    let (token, s) ← StartTag.readContent ⟨tag, attributes, selfClosing⟩ s
    let tokens ← Token.scan s
    return token :: tokens

/-- The room for turns at a place: in a start tag the end of the text takes one too. -/
def room : Place → Nat
  | content s => s.length
  | startTag _ _ s => s.length + 1

theorem room_le (p : Place) : p.room ≤ p.rest.length + 1 := by
  cases p with
  | content s => exact Nat.le_succ _
  | startTag tag attributes s => exact Nat.le_refl _

variable {p q : Place} {token : Option Token}

/-- A turn goes on. -/
theorem turn_advances (hp : p ≠ content []) (h : p.turn = .ok (token, q)) :
    Advances p.rest q.rest := by
  cases p with
  | content s =>
    simp only [turn] at h
    split at h
    · rename_i s' hstart
      obtain ⟨⟨name, rest⟩, hname, he⟩ := ok_of_bind h
      cases he
      rw [eq_cons_of_startTag? hstart]
      exact .of_suffix_left (List.suffix_cons '<' _) (readTagName_advances hname)
    · obtain ⟨⟨token, rest⟩, hnext, he⟩ := ok_of_bind h
      cases he
      exact next_advances (fun hs => hp (hs ▸ rfl)) hnext
  | startTag tag attributes s =>
    obtain ⟨⟨part, rest⟩, hpart, h⟩ := ok_of_bind h
    rcases part with selfClosing | ⟨name, value⟩ | _
    · obtain ⟨⟨token, rest'⟩, hcontent, he⟩ := ok_of_bind h
      cases he
      exact (nextPart_advances hpart).trans_suffix (readContent_suffix hcontent)
    · cases h
      exact nextPart_advances hpart
    · cases h
      exact nextPart_advances hpart

/-- A turn leaves less room. -/
theorem room_turn_lt (hp : p ≠ content []) (h : p.turn = .ok (token, q)) : q.room < p.room := by
  have hlt := (turn_advances hp h).length_lt
  cases p with
  | content s =>
    simp only [turn] at h
    split at h
    · -- The angle bracket and the name pay for this turn and for the last one in the tag.
      rename_i s' hstart
      obtain ⟨⟨name, rest⟩, hname, he⟩ := ok_of_bind h
      cases he
      have hname := (readTagName_advances hname).length_lt
      rw [eq_cons_of_startTag? hstart]
      show rest.length + 1 < s'.length + 1
      omega
    · obtain ⟨⟨token, rest⟩, hnext, he⟩ := ok_of_bind h
      cases he
      exact hlt
  | startTag tag attributes s =>
    have hroom := q.room_le
    show q.room < s.length + 1
    change q.rest.length < s.length at hlt
    omega

/-- Reading all begins with a turn. -/
theorem outcome_eq (hp : p ≠ content []) :
    p.outcome = (do
      let (token, q) ← p.turn
      let tokens ← q.outcome
      return token.toList ++ tokens) := by
  cases p with
  | content s =>
    have hs : s ≠ [] := fun hs => hp (hs ▸ rfl)
    rw [outcome, scan_eq_bind hs, turn]
    split
    · rename_i s' hstart
      rw [next_of_startTag? hstart, readElement_eq]
      simp only [bind_assoc, pure_bind, outcome]
      rfl
    · simp only [bind_assoc, pure_bind, outcome]
  | startTag tag attributes s =>
    rw [outcome, turn, readParts_eq]
    simp only [bind_assoc]
    refine congrArg _ (funext ?_)
    rintro ⟨selfClosing | ⟨name, value⟩ | _, rest⟩
    all_goals
      simp only [bind_assoc, pure_bind, outcome]
      rfl

theorem eq_content_nil_of_room (h : p.room = 0) : p = content [] := by
  cases p with
  | content s => rw [List.eq_nil_of_length_eq_zero h]
  | startTag tag attributes s => cases h

theorem run_content_nil (turns : Nat) : run turns (content []) = some (.ok []) := by rw [run]

theorem run_succ (turns : Nat) (hp : p ≠ content []) :
    run (turns + 1) p =
      match p.turn with
      | .error fault => some (.error fault)
      | .ok (token, q) => (run turns q).map fun outcome => outcome.map (token.toList ++ ·) := by
  rw [run]
  exact hp

/-- As many turns as there is room read all. -/
theorem run_eq {turns : Nat} (h : p.room ≤ turns) : run turns p = some p.outcome := by
  have hnil : (content []).outcome = .ok [] := by rw [outcome, Token.scan, dif_pos rfl]
  induction turns generalizing p with
  | zero =>
    rw [eq_content_nil_of_room (Nat.le_zero.1 h), run_content_nil, hnil]
  | succ turns ih =>
    by_cases hp : p = content []
    · rw [hp, run_content_nil, hnil]
    · rw [run_succ turns hp, outcome_eq hp]
      cases hturn : p.turn with
      | error fault => rfl
      | ok result =>
        obtain ⟨token, q⟩ := result
        have hroom := room_turn_lt hp hturn
        show (run turns q).map _ = some (Except.bind q.outcome _)
        rw [ih (by omega)]
        cases q.outcome <;> rfl

-- Six turns: the name, four times junk, and the end of the tag.
example : (content "<p é\" / = '>".toList).run 5 = none ∧
    (content "<p é\" / = '>".toList).run 6 = some (.ok [.start "p" ∅]) := by decide +kernel

end Place

end Markup

/-! ## Texts -/

theorem length_toList_le_utf8ByteSize (s : String) : s.toList.length ≤ s.utf8ByteSize := by
  induction s using String.push_induction with
  | empty => exact Nat.le_refl _
  | push s c ih =>
    have hc := c.utf8Size_pos
    rw [String.toList_push, List.length_append, String.utf8ByteSize_push, List.length_singleton]
    omega

namespace Document

open Markup

/-- **Turns of the reader.** A turn over the tokens of a text, a turn over the parts of a start tag
and a turn of both loops as one take at least one character and stay within the text. Whatever a
text holds, reading it ends within as many turns as it has bytes, those of both loops together, and
it ends in a document or in a fault of the text. -/
theorem ofHtml_turns :
    (∀ (s rest : List Char) (token : Option Token), s ≠ [] →
      Token.next s = .ok (token, rest) → Advances s rest) ∧
    (∀ (tag : String) (s rest : List Char) (part : TagPart),
      nextPart tag s = .ok (part, rest) → Advances s rest) ∧
    (∀ (p q : Place) (token : Option Token), p ≠ .content [] →
      p.turn = .ok (token, q) → Advances p.rest q.rest) ∧
    ∀ html : String,
      (∃ tokens, (Place.content html.toList).run html.utf8ByteSize = some (.ok tokens) ∧
        ofHtml html = .ok (ofTokens tokens)) ∨
      ∃ fault, (Place.content html.toList).run html.utf8ByteSize = some (.error fault) ∧
        fault.IsLexical ∧ ofHtml html = .error (.markup fault) := by
  refine ⟨fun s rest token hs h => next_advances hs h,
    fun tag s rest part h => nextPart_advances h,
    fun p q token hp h => Place.turn_advances hp h, fun html => ?_⟩
  have hrun : (Place.content html.toList).run html.utf8ByteSize = some (Token.scan html.toList) :=
    Place.run_eq (length_toList_le_utf8ByteSize html)
  rw [hrun, ofHtml]
  cases hscan : Token.scan html.toList with
  | ok tokens => exact .inl ⟨tokens, rfl, rfl⟩
  | error fault => exact .inr ⟨fault, rfl, isLexical_of_scan hscan, rfl⟩

/-- Stray marks in a tag are left out, and the text of 13 bytes gives a document; a tag that breaks
off behind an equals sign is a fault. -/
theorem ofHtml_turns_strayMarks :
    Advances "<p é\" / = '>".toList [] ∧
    Advances " / = '>".toList " = '>".toList ∧
    Advances "<p é\" / = '>".toList " é\" / = '>".toList ∧
    (∃ tokens, (Place.content "<p é\" / = '>".toList).run 13 = some (.ok tokens) ∧
      ofHtml "<p é\" / = '>" = .ok (ofTokens tokens)) ∧
    ∃ fault, (Place.content "<p a= ".toList).run 6 = some (.error fault) ∧
      fault.IsLexical ∧ ofHtml "<p a= " = .error (.markup fault) := by
  have hnext : Token.next "<p é\" / = '>".toList = .ok (some (.start "p" ∅), []) := by
    decide +kernel
  have hpart : nextPart "p" " / = '>".toList = .ok (.junk, " = '>".toList) := by decide +kernel
  have hturn : (Place.content "<p é\" / = '>".toList).turn =
      .ok (none, .startTag "p" ∅ " é\" / = '>".toList) := rfl
  refine ⟨ofHtml_turns.1 _ _ _ (by decide) hnext, ofHtml_turns.2.1 _ _ _ _ hpart,
    ofHtml_turns.2.2.1 _ _ _ (by simp) hturn, ?_, ?_⟩
  · have hrun : ¬∃ fault, (Place.content "<p é\" / = '>".toList).run 13 = some (.error fault) := by
      have hok : (Place.content "<p é\" / = '>".toList).run 13 = some (.ok [.start "p" ∅]) := by
        decide +kernel
      rintro ⟨fault, hfault⟩
      rw [hok] at hfault
      cases hfault
    have h := ofHtml_turns.2.2.2 "<p é\" / = '>"
    exact h.resolve_right fun ⟨fault, hfault, _⟩ => hrun ⟨fault, hfault⟩
  · have hrun : ¬∃ tokens, (Place.content "<p a= ".toList).run 6 = some (.ok tokens) := by
      have herror : (Place.content "<p a= ".toList).run 6 =
          some (.error .missingAttributeValue) := by decide +kernel
      rintro ⟨tokens, htokens⟩
      rw [herror] at htokens
      cases htokens
    have h := ofHtml_turns.2.2.2 "<p a= "
    exact h.resolve_left fun ⟨tokens, htokens, _⟩ => hrun ⟨tokens, htokens⟩

end Document

end FormRules
