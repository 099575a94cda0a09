import FormRules.PlainForm
import FormRules.Proofs.Operator.Builtin
import FormRules.Proofs.Session

/-!
# Words that are not judged

A word that starts with a colon is no rule, and a rule whose operator has no handler is passed over.
Words of these two kinds can be put in among the words of a rule text without changing what a
session finds. All that they do is to move the place of the rule that fails, and of the two kinds
only the second does.

* `Piece`: a word of the longer text, either one of the shorter text or one that was put in.
* `Registry.Ignores`, `Padded`: words that are not judged, and a text with such words put in.
* `DecidesAt.padded`: the rule that decides still does, at a later place.
* `Moved`: two results that differ by the place of the rule that failed.
* `validate_padded`: sessions by the two texts.
-/

namespace FormRules

variable {φ : Type}

/-! ## Texts with words put in -/

/-- A word of a text that was made by putting words into another one. -/
inductive Piece
  | kept (word : List Char)
  | inserted (word : List Char)
  deriving DecidableEq

namespace Piece

/-- The word as it stands in the longer text. -/
def word : Piece → List Char
  | kept word => word
  | inserted word => word

/-- The word if it is one of the shorter text. -/
def kept? : Piece → Option (List Char)
  | kept word => some word
  | inserted _ => none

/-- The rule of the word, if it is one. -/
def rule? (piece : Piece) : Option Rule := Rule.ofWord? piece.word

/-- The rule of a word of the shorter text. -/
def keptRule? : Piece → Option Rule
  | kept word => Rule.ofWord? word
  | inserted _ => none

/-- The rule of a word that was put in. -/
def insertedRule? : Piece → Option Rule
  | kept _ => none
  | inserted word => Rule.ofWord? word

end Piece

/-- A word that a registry makes nothing of: it starts with a colon, or its operator has no
handler. -/
def Registry.Ignores (r : Registry φ) (word : List Char) : Prop :=
  word.head? = some ':' ∨ ∃ rule, Rule.ofWord? word = some rule ∧ r.contains rule.operator = false

/-- The words of `text'` are the words of `text` and others, put in anywhere, that a registry
ignores. -/
structure Padded (r : Registry φ) (pieces : List Piece) (text text' : String) : Prop where
  words_kept : Text.words text.toList = pieces.filterMap Piece.kept?
  words_all : Text.words text'.toList = pieces.map Piece.word
  ignored : ∀ word, .inserted word ∈ pieces → r.Ignores word

/-! ## Rules of the pieces -/

section

variable {r : Registry φ} {pieces : List Piece} {text text' : String}

theorem Padded.parse_kept (h : Padded r pieces text text') :
    Rule.parse text = pieces.filterMap Piece.keptRule? := by
  rw [Rule.parse, h.words_kept, List.filterMap_filterMap]
  congr 1
  funext piece
  cases piece <;> rfl

theorem Padded.parse_all (h : Padded r pieces text text') :
    Rule.parse text' = pieces.filterMap Piece.rule? := by
  rw [Rule.parse, h.words_all, List.filterMap_map]
  rfl

theorem Piece.keptRule?_eq_some {piece : Piece} {rule : Rule} (h : piece.keptRule? = some rule) :
    ∃ word, piece = .kept word ∧ Rule.ofWord? word = some rule := by
  cases piece with
  | kept word => exact ⟨word, rfl, h⟩
  | inserted word => cases h

/-- Each rule is one of the shorter text or was put in. -/
theorem Piece.length_rules (pieces : List Piece) :
    (pieces.filterMap rule?).length =
      (pieces.filterMap keptRule?).length + (pieces.filterMap insertedRule?).length := by
  induction pieces with
  | nil => rfl
  | cons piece pieces ih =>
    cases piece with
    | kept word =>
      simp only [List.filterMap_cons, rule?, Piece.word, keptRule?, insertedRule?]
      cases Rule.ofWord? word with
      | none => exact ih
      | some rule =>
        simp only [List.length_cons]
        omega
    | inserted word =>
      simp only [List.filterMap_cons, rule?, Piece.word, keptRule?, insertedRule?]
      cases Rule.ofWord? word with
      | none => exact ih
      | some rule =>
        simp only [List.length_cons]
        omega

/-- A rule of the shorter text at some place is a piece, with so many rules of that text in
front. -/
theorem Piece.exists_split {i : Nat} {rule : Rule}
    (h : (pieces.filterMap keptRule?)[i]? = some rule) :
    ∃ front word rest, pieces = front ++ .kept word :: rest ∧
      Rule.ofWord? word = some rule ∧ i = (front.filterMap keptRule?).length := by
  induction pieces generalizing i with
  | nil => cases h
  | cons piece pieces ih =>
    cases hpiece : piece.keptRule? with
    | none =>
      rw [List.filterMap_cons_none hpiece] at h
      obtain ⟨front, word, rest, rfl, hword, hi⟩ := ih h
      refine ⟨piece :: front, word, rest, rfl, hword, ?_⟩
      rw [List.filterMap_cons_none hpiece, hi]
    | some head =>
      rw [List.filterMap_cons_some hpiece] at h
      cases i with
      | zero =>
        cases h
        obtain ⟨word, rfl, hword⟩ := keptRule?_eq_some hpiece
        exact ⟨[], word, pieces, rfl, hword, rfl⟩
      | succ i =>
        obtain ⟨front, word, rest, rfl, hword, hi⟩ := ih h
        refine ⟨piece :: front, word, rest, rfl, hword, ?_⟩
        rw [List.filterMap_cons_some hpiece, List.length_cons, hi]

end

/-! ## Rules that decide -/

theorem Rule.ofWord?_of_colon {word : List Char} (h : word.head? = some ':') :
    Rule.ofWord? word = none := by
  obtain ⟨rest, rfl⟩ := List.head?_eq_some_iff.1 h
  simp [Rule.ofWord?, Text.cut, Rule.isColon]

namespace Registry

variable {r : Registry φ} {f f' : φ} {mode : Option Mode} {rules : List Rule} {pieces : List Piece}

theorem Ignores.reply?_eq_none {word : List Char} (h : r.Ignores word) {rule : Rule}
    (hrule : Rule.ofWord? word = some rule) : r.reply? f mode rule = none := by
  rcases h with hcolon | ⟨rule', hrule', habsent⟩
  · rw [Rule.ofWord?_of_colon hcolon] at hrule
    cases hrule
  · rw [hrule] at hrule'
    cases hrule'
    rw [Registry.reply?, Option.map_eq_none_iff]
    simpa [contains] using habsent

theorem undecidedBefore_append {rest : List Rule} :
    r.UndecidedBefore f mode (rules ++ rest) rules.length ↔
      ∀ rule ∈ rules, ∀ reply, r.reply? f mode rule = some reply → ¬ reply.Decisive := by
  induction rules with
  | nil => simpa using undecidedBefore_zero
  | cons head rules ih =>
    rw [List.cons_append, List.length_cons, undecidedBefore_cons, ih, List.forall_mem_cons]

theorem undecidedBefore_length :
    r.UndecidedBefore f mode rules rules.length ↔
      ∀ rule ∈ rules, ∀ reply, r.reply? f mode rule = some reply → ¬ reply.Decisive := by
  have happend : r.UndecidedBefore f mode (rules ++ []) rules.length ↔ _ := undecidedBefore_append
  rwa [List.append_nil] at happend

/-- Pieces end no session unless a rule of the shorter text among them does. -/
theorem undecided_pieces (hreply : ∀ rule, r.reply? f' mode rule = r.reply? f mode rule)
    (hignored : ∀ word, .inserted word ∈ pieces → r.Ignores word)
    (h : ∀ rule ∈ pieces.filterMap Piece.keptRule?,
      ∀ reply, r.reply? f mode rule = some reply → ¬ reply.Decisive) :
    ∀ rule ∈ pieces.filterMap Piece.rule?,
      ∀ reply, r.reply? f' mode rule = some reply → ¬ reply.Decisive := by
  intro rule hrule reply hsome
  rw [hreply] at hsome
  obtain ⟨piece, hmem, hpiece⟩ := List.mem_filterMap.1 hrule
  cases piece with
  | kept word => exact h rule (List.mem_filterMap.2 ⟨_, hmem, hpiece⟩) reply hsome
  | inserted word =>
    rw [(hignored word hmem).reply?_eq_none hpiece] at hsome
    cases hsome

/-- The rule that decides among the rules of the shorter text decides among all, behind the rules
that were put in in front of it. -/
theorem DecidesAt.padded (hreply : ∀ rule, r.reply? f' mode rule = r.reply? f mode rule)
    (hignored : ∀ word, .inserted word ∈ pieces → r.Ignores word) {i : Nat} {rule : Rule}
    {reply : Reply} (h : r.DecidesAt f mode (pieces.filterMap Piece.keptRule?) i rule reply) :
    ∃ front word rest, pieces = front ++ .kept word :: rest ∧
      Rule.ofWord? word = some rule ∧ i = (front.filterMap Piece.keptRule?).length ∧
      r.DecidesAt f' mode (pieces.filterMap Piece.rule?)
        (i + (front.filterMap Piece.insertedRule?).length) rule reply := by
  obtain ⟨front, word, rest, rfl, hword, hi⟩ := Piece.exists_split h.rule_at
  refine ⟨front, word, rest, rfl, hword, hi, ?_⟩
  have hrule : Piece.rule? (.kept word) = some rule := hword
  have hkept : Piece.keptRule? (.kept word) = some rule := hword
  have hleast := h.least
  rw [List.filterMap_append, List.filterMap_cons_some hkept, hi, undecidedBefore_append] at hleast
  rw [hi, ← Piece.length_rules, List.filterMap_append, List.filterMap_cons_some hrule]
  exact {
    rule_at := by simp
    reply_eq := (hreply rule).trans h.reply_eq
    decisive := h.decisive
    least := undecidedBefore_append.2 <|
      undecided_pieces hreply (fun word hmem => hignored word (List.mem_append_left _ hmem))
        hleast }

end Registry

/-! ## Sessions -/

variable [Field φ]

/-- A field before and after its rule text was written anew. The handlers do not read that text. -/
structure Respelled (r : Registry φ) (mode : Option Mode) (f f' : φ) : Prop where
  key : Field.key f' = Field.key f
  isDisabled : Field.isDisabled f' = Field.isDisabled f
  handlers : r.All fun _ handler => ∀ args, handler f' mode args = handler f mode args

/-- Two results that are the same, but that the place of the rule that failed is counted among the
rules of the shorter text in the one, and among all rules in the other. -/
inductive Moved (pieces : List Piece) : Except Error Report → Except Error Report → Prop
  | same {result : Except Error Report}
      (h : ∀ failure notified, result ≠ .ok (.failed failure notified)) : Moved pieces result result
  | failed {front rest : List Piece} {word : List Char} {rule : Rule} {notified : Bool}
      (split : pieces = front ++ .kept word :: rest) (rule_eq : Rule.ofWord? word = some rule) :
      Moved pieces
        (.ok (.failed ⟨(front.filterMap Piece.keptRule?).length, rule.operator, rule.args⟩
          notified))
        (.ok (.failed ⟨(front.filterMap Piece.keptRule?).length +
          (front.filterMap Piece.insertedRule?).length, rule.operator, rule.args⟩ notified))

section

variable {r : Registry φ} {f f' : φ} {mode : Option Mode} {pieces : List Piece}
  {text text' : String}

theorem Respelled.reply?_eq (h : Respelled r mode f f') (rule : Rule) :
    r.reply? f' mode rule = r.reply? f mode rule := by
  rw [Registry.reply?, Registry.reply?]
  cases hhandler : r.handler? rule.operator with
  | none => rfl
  | some handler => exact congrArg some (h.handlers _ handler hhandler rule.args)

/-- Sessions by a text and by one with words put in. -/
theorem exists_session_padded {c : Config} (before : DisplayState) (hf : Respelled r mode f f')
    (hcounts : RuleText c f mode text) (hcounts' : RuleText c f' mode text')
    (hpadded : Padded r pieces text text') :
    ∃ result result' state notice notice',
      Session c r f mode before result state notice ∧
      Session c r f' mode before result' state notice' ∧ Moved pieces result result' := by
  cases hdisabled : Field.isDisabled f with
  | true =>
    refine ⟨_, _, _, _, _, .disabled hdisabled, .disabled (hf.isDisabled.trans hdisabled), .same ?_⟩
    intro failure notified h
    cases h
  | false =>
    have hdisabled' := hf.isDisabled.trans hdisabled
    rcases r.undecided_or_decidesAt f mode (Rule.parse text) with
      hundecided | ⟨i, rule, reply, hdecides⟩
    · have hundecided' : r.UndecidedBefore f' mode (Rule.parse text')
          (Rule.parse text').length := by
        rw [hpadded.parse_kept, Registry.undecidedBefore_length] at hundecided
        rw [hpadded.parse_all, Registry.undecidedBefore_length]
        exact Registry.undecided_pieces hf.reply?_eq hpadded.ignored hundecided
      refine ⟨_, _, _, _, _, .passed hdisabled hcounts hundecided,
        .passed hdisabled' hcounts' hundecided', .same ?_⟩
      intro failure notified h
      cases h
    · have hdecides' := hdecides
      rw [hpadded.parse_kept] at hdecides'
      obtain ⟨front, word, rest, hsplit, hword, rfl, hdecides'⟩ :=
        hdecides'.padded hf.reply?_eq hpadded.ignored
      rw [← hpadded.parse_all] at hdecides'
      cases herror : reply.error? with
      | some e =>
        refine ⟨_, _, _, _, _, .broken hdisabled hcounts hdecides herror,
          .broken hdisabled' hcounts' hdecides' herror, .same ?_⟩
        intro failure notified h
        cases h
      | none =>
        exact ⟨_, _, _, _, _, .failed hdisabled hcounts hdecides herror,
          .failed hdisabled' hcounts' hdecides' herror, .failed hsplit hword⟩

namespace Validator

/-- **Words that are not judged.** Put words into the rule text of a field that start with a colon
or whose operator has no handler. The field gets the same result and the same display states; a
failure is by the same rule and told to observers as before, and its place moves by the number of
rules that were put in in front of it. -/
theorem validate_padded (v : Validator φ) (hf : Respelled v.registry mode f f')
    (hcounts : RuleText v.config f mode text) (hcounts' : RuleText v.config f' mode text')
    (hpadded : Padded v.registry pieces text text') :
    Moved pieces (v.validate f mode).2 (v.validate f' mode).2 ∧
      ∀ k, (v.validate f' mode).1.displayState k = (v.validate f mode).1.displayState k := by
  obtain ⟨result, result', state, notice, notice', hsession, hsession', hmoved⟩ :=
    exists_session_padded (v.displayState (Field.key f)) hf hcounts hcounts' hpadded
  obtain ⟨hresult, hsettled⟩ := session_validate hsession
  rw [← hf.key] at hsession'
  obtain ⟨hresult', hsettled'⟩ := session_validate hsession'
  rw [hresult, hresult']
  refine ⟨hmoved, fun k => ?_⟩
  rw [hsettled'.displayState, hsettled.displayState, hf.key]

end Validator

/-- The built-in operators do not read rule texts. -/
theorem Operator.SeenAlike.respelled (h : SeenAlike f f') (hkey : Field.key f' = Field.key f)
    (hdisabled : Field.isDisabled f' = Field.isDisabled f) (format : NumberFormat)
    (engine : Pattern.Engine) : Respelled (builtins format engine) mode f f' where
  key := hkey
  isDisabled := hdisabled
  handlers name handler hhandler args :=
    h.reply (all_isBuiltin_builtins format engine name handler hhandler) mode args

end

/-! ## A text with four words put in -/

/-- A field of a plain form, without a value, under some rules. -/
def unfilledControl (text : String) : PlainControl where
  form := { id := "f" }
  field := { id := "a", attributes := .ofList [("data-validate", text)] }

/-- The rules of a field, with four words put in. -/
def fourInserted : List Piece :=
  [.inserted "foo".toList, .kept "date".toList, .inserted ":x".toList, .inserted "bar:1".toList,
    .kept "required".toList, .inserted "baz".toList]

/-- Two of the words put in in front of the rule that fails have an operator. -/
theorem validate_unfilledControl :
    ((Validator.ofConfig {}).validate (unfilledControl "date required") none).2 =
      .ok (.failed ⟨1, "required", []⟩ true) ∧
    ((Validator.ofConfig {}).validate (unfilledControl "foo date :x bar:1 required baz") none).2 =
      .ok (.failed ⟨3, "required", []⟩ true) ∧
    Moved fourInserted (.ok (.failed ⟨1, "required", []⟩ true))
      (.ok (.failed ⟨3, "required", []⟩ true)) ∧
    ∀ k, ((Validator.ofConfig {}).validate
        (unfilledControl "foo date :x bar:1 required baz") none).1.displayState k =
      ((Validator.ofConfig {}).validate
        (unfilledControl "date required") none).1.displayState k := by
  have hcounts (text : String) (hfilled : text ≠ "") :
      RuleText ({} : Config) (unfilledControl text) none text :=
    .general (fun m hm => nomatch hm) rfl hfilled
  have halike : Operator.SeenAlike (unfilledControl "date required")
      (unfilledControl "foo date :x bar:1 required baz") :=
    ⟨rfl, rfl, fun _ => rfl, fun _ => rfl⟩
  have hrespelled : Respelled (builtins .allowExponent .standard) none
      (unfilledControl "date required") (unfilledControl "foo date :x bar:1 required baz") :=
    halike.respelled rfl rfl .allowExponent .standard
  have hpadded : Padded (Validator.ofConfig (φ := PlainControl) {}).registry fourInserted
      "date required" "foo date :x bar:1 required baz" := by
    refine ⟨by decide, by decide, ?_⟩
    intro word hword
    simp only [fourInserted, List.mem_cons, Piece.inserted.injEq, reduceCtorEq, List.not_mem_nil,
      or_false, false_or] at hword
    rcases hword with rfl | rfl | rfl | rfl
    · exact .inr ⟨⟨"foo", []⟩, by decide, by decide⟩
    · exact .inl rfl
    · exact .inr ⟨⟨"bar", ["1"]⟩, by decide, by decide⟩
    · exact .inr ⟨⟨"baz", []⟩, by decide, by decide⟩
  obtain ⟨hmoved, hstates⟩ := (Validator.ofConfig {}).validate_padded hrespelled
    (hcounts _ (by decide)) (hcounts _ (by decide)) hpadded
  exact ⟨rfl, rfl, hmoved, hstates⟩

end FormRules
