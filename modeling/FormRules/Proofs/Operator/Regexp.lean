import FormRules.PlainForm
import FormRules.Operator.Builtin
import Mathlib.Data.List.Nodup

/-!
# Pattern rules

A pattern rule looks at four things in turn: whether there is a value and a pattern at all, whether
its modifiers can be read, whether the engine takes the pattern, and whether it can tell of a match.
The modifiers are read one by one with those in front of them at hand. What has been read so far is
always free of faults, so the reading stops at the first fault, and at the end the flags are those
of all modifiers, in whatever order they stand.

* `AreModifiers`, `IsFirstFault`: modifiers that can be read, and what is wrong with others.
* `reads_readModifiers`: reading modifiers gives their flags or their first fault.
* `flagsOf_eq_of_interchangeable`: modifiers with the same flags.
* `RegexpReply`, `regexpReply_regexp`: what a pattern rule replies, for any engine.
* `regexp_error_iff_and_failed_iff`: when it is broken, when it fails a value, and what does not
  matter to it.
-/

namespace FormRules

open Pattern (Engine Flags)

/-! ## Modifiers -/

/-- The modifiers that there are. -/
def knownModifiers : List Char := ['i', 'm', 's', 'g', 'y', 'u']

/-- The modifiers that change nothing when a text is tested once. -/
def idleModifiers : List Char := ['g', 'y', 'u']

/-- Modifiers that can be read: all of them are known and none is repeated. -/
structure AreModifiers (s : List Char) : Prop where
  nodup : s.Nodup
  known : ∀ c ∈ s, c ∈ knownModifiers

/-- What is wrong with modifiers at the first place where something is. -/
inductive IsFirstFault (s : List Char) : ModifierFault → Prop
  | repeated {front rest : List Char} {c : Char} (hs : s = front ++ c :: rest)
      (hfront : AreModifiers front) (hc : c ∈ front) : IsFirstFault s (.repeated c)
  | unknown {front rest : List Char} {c : Char} (hs : s = front ++ c :: rest)
      (hfront : AreModifiers front) (hc : c ∉ knownModifiers) : IsFirstFault s (.unknown c)

/-- The flags that modifiers stand for. -/
def flagsOf (s : List Char) : Flags where
  ignoreCase := s.contains 'i'
  multiLine := s.contains 'm'
  dotAll := s.contains 's'

/-- What reading modifiers comes to. -/
inductive ReadsModifiers (s : List Char) : Except ModifierFault Flags → Prop
  | flags (h : AreModifiers s) : ReadsModifiers s (.ok (flagsOf s))
  | fault {fault : ModifierFault} (h : IsFirstFault s fault) : ReadsModifiers s (.error fault)

instance (s : List Char) : Decidable (AreModifiers s) :=
  decidable_of_iff (s.Nodup ∧ s.all (· ∈ knownModifiers) = true)
    ⟨fun h => ⟨h.1, by simpa using h.2⟩, fun h => ⟨h.1, by simpa using h.2⟩⟩

variable {front rest s t : List Char} {c : Char}

theorem areModifiers_nil : AreModifiers [] := ⟨List.nodup_nil, fun _ h => nomatch h⟩

/-- One more modifier can be read unless it is there already or unknown. -/
theorem areModifiers_concat_iff :
    AreModifiers (front ++ [c]) ↔ AreModifiers front ∧ c ∉ front ∧ c ∈ knownModifiers := by
  have hnodup : (front ++ [c]).Nodup ↔ c ∉ front ∧ front.Nodup := by
    rw [List.nodup_middle, List.append_nil, List.nodup_cons]
  have hknown : (∀ d ∈ front ++ [c], d ∈ knownModifiers) ↔
      (∀ d ∈ front, d ∈ knownModifiers) ∧ c ∈ knownModifiers := by
    rw [List.forall_mem_append, List.forall_mem_singleton]
  constructor
  · rintro ⟨h, h'⟩
    rw [hnodup] at h
    rw [hknown] at h'
    exact ⟨⟨h.2, h'.1⟩, h.1, h'.2⟩
  · rintro ⟨⟨h, h'⟩, hc, hc'⟩
    exact ⟨hnodup.2 ⟨hc, h⟩, hknown.2 ⟨h', hc'⟩⟩

theorem AreModifiers.of_append (h : AreModifiers (front ++ rest)) : AreModifiers front where
  nodup := (List.nodup_append.1 h.nodup).1
  known c hc := h.known c (List.mem_append_left rest hc)

/-- Modifiers with a fault cannot be read. -/
theorem IsFirstFault.not_areModifiers {fault : ModifierFault} (h : IsFirstFault s fault) :
    ¬ AreModifiers s := by
  intro hs
  cases h with
  | repeated heq hfront hc =>
    rw [heq, List.append_cons] at hs
    exact (areModifiers_concat_iff.1 hs.of_append).2.1 hc
  | unknown heq hfront hc =>
    rw [heq, List.append_cons] at hs
    exact hc (areModifiers_concat_iff.1 hs.of_append).2.2

/-! ### Reading them -/

theorem flagsOf_concat (front : List Char) (c : Char) :
    flagsOf (front ++ [c]) =
      ⟨(flagsOf front).ignoreCase || 'i' == c, (flagsOf front).multiLine || 'm' == c,
        (flagsOf front).dotAll || 's' == c⟩ := by
  simp only [flagsOf, List.contains_append, List.contains_cons, List.contains_nil, Bool.or_false]

/-- A modifier that can be read behind others sets its flag. -/
theorem readModifier_of_areModifiers (h : AreModifiers (front ++ [c])) :
    readModifier front.reverse (flagsOf front) c = .ok (flagsOf (front ++ [c])) := by
  obtain ⟨-, hc, hknown⟩ := areModifiers_concat_iff.1 h
  unfold readModifier
  rw [if_neg (mt List.mem_reverse.1 hc), flagsOf_concat]
  simp only [knownModifiers, List.mem_cons, List.not_mem_nil, or_false] at hknown
  obtain rfl | rfl | rfl | rfl | rfl | rfl := hknown <;> simp

/-- Any other is at fault, whatever stands behind it. -/
theorem exists_fault_of_not_areModifiers (hfront : AreModifiers front)
    (h : ¬ AreModifiers (front ++ [c])) :
    ∃ fault, readModifier front.reverse (flagsOf front) c = .error fault ∧
      ∀ rest, IsFirstFault (front ++ c :: rest) fault := by
  by_cases hc : c ∈ front
  · refine ⟨.repeated c, ?_, fun rest => .repeated rfl hfront hc⟩
    unfold readModifier
    rw [if_pos (List.mem_reverse.2 hc)]
  · have hunknown : c ∉ knownModifiers :=
      fun hknown => h (areModifiers_concat_iff.2 ⟨hfront, hc, hknown⟩)
    refine ⟨.unknown c, ?_, fun rest => .unknown rfl hfront hunknown⟩
    unfold readModifier
    rw [if_neg (mt List.mem_reverse.1 hc)]
    split
    case h_7 => rfl
    all_goals exact absurd (by decide) hunknown

/-- Reading on behind modifiers without a fault. -/
theorem reads_readModifiersFrom (hfront : AreModifiers front) (s : List Char) :
    ReadsModifiers (front ++ s) (readModifiersFrom front.reverse (flagsOf front) s) := by
  induction s generalizing front with
  | nil =>
    rw [List.append_nil]
    exact .flags hfront
  | cons c s ih =>
    rw [readModifiersFrom]
    by_cases hc : AreModifiers (front ++ [c])
    · have hread := ih hc
      rw [List.append_assoc, List.reverse_append] at hread
      rw [readModifier_of_areModifiers hc]
      exact hread
    · obtain ⟨fault, hread, hfault⟩ := exists_fault_of_not_areModifiers hfront hc
      rw [hread]
      exact .fault (hfault s)

/-- Reading modifiers gives their flags, or the first fault in them. -/
theorem reads_readModifiers (modifiers : String) :
    ReadsModifiers modifiers.toList (readModifiers modifiers) :=
  reads_readModifiersFrom areModifiers_nil modifiers.toList

theorem readModifiers_of_areModifiers {modifiers : String} (h : AreModifiers modifiers.toList) :
    readModifiers modifiers = .ok (flagsOf modifiers.toList) := by
  have hreads := reads_readModifiers modifiers
  generalize readModifiers modifiers = result at hreads
  cases hreads with
  | flags => rfl
  | fault hfault => exact absurd h hfault.not_areModifiers

theorem exists_fault_of_readModifiers {modifiers : String}
    (h : ¬ AreModifiers modifiers.toList) :
    ∃ fault, readModifiers modifiers = .error fault ∧
      IsFirstFault modifiers.toList fault := by
  have hreads := reads_readModifiers modifiers
  generalize readModifiers modifiers = result at hreads
  cases hreads with
  | flags hflags => exact absurd hflags h
  | fault hfault => exact ⟨_, rfl, hfault⟩

/-! ### Modifiers with the same flags -/

/-- The same modifiers in any order, apart from the idle ones, and none is repeated. -/
structure Interchangeable (s t : List Char) : Prop where
  nodup : t.Nodup
  mem_iff : ∀ c, c ∉ idleModifiers → (c ∈ t ↔ c ∈ s)

theorem AreModifiers.interchangeable_of_perm (h : AreModifiers s) (hperm : t.Perm s) :
    Interchangeable s t where
  nodup := hperm.nodup_iff.2 h.nodup
  mem_iff _ _ := hperm.mem_iff

theorem AreModifiers.of_interchangeable (h : AreModifiers s) (ht : Interchangeable s t) :
    AreModifiers t where
  nodup := ht.nodup
  known c hc := by
    by_cases hidle : c ∈ idleModifiers
    · exact List.mem_append_right ['i', 'm', 's'] hidle
    · exact h.known c ((ht.mem_iff c hidle).1 hc)

theorem flagsOf_eq_of_interchangeable (ht : Interchangeable s t) : flagsOf t = flagsOf s := by
  have hcontains (c : Char) (hc : c ∉ idleModifiers) : t.contains c = s.contains c := by
    rw [Bool.eq_iff_iff, List.contains_iff_mem, List.contains_iff_mem, ht.mem_iff c hc]
  rw [flagsOf, flagsOf, hcontains 'i' (by decide), hcontains 'm' (by decide),
    hcontains 's' (by decide)]

/-! ## Engines -/

namespace Pattern.Engine

/-- An engine does not take a pattern, or cannot tell whether it matches in a text. -/
inductive Rejects (engine : Engine) (pattern : String) (flags : Flags) (text reason : String) : Prop
  | pattern (h : engine pattern flags = .error reason)
  | text {test : String → Except String Bool} (h : engine pattern flags = .ok test)
      (htext : test text = .error reason)

/-- An engine tells whether a pattern matches in a text. -/
inductive Tells (engine : Engine) (pattern : String) (flags : Flags) (text : String)
    (isMatch : Bool) : Prop
  | intro {test : String → Except String Bool} (h : engine pattern flags = .ok test)
      (htext : test text = .ok isMatch)

theorem Tells.unique {engine : Engine} {pattern text : String} {flags : Flags}
    {isMatch isMatch' : Bool} (h : engine.Tells pattern flags text isMatch)
    (h' : engine.Tells pattern flags text isMatch') : isMatch = isMatch' := by
  obtain ⟨h, htext⟩ := h
  obtain ⟨h', htext'⟩ := h'
  rw [h] at h'
  cases h'
  rw [htext] at htext'
  cases htext'
  rfl

theorem Rejects.not_tells {engine : Engine} {pattern text reason : String} {flags : Flags}
    {isMatch : Bool} (h : engine.Rejects pattern flags text reason) :
    ¬ engine.Tells pattern flags text isMatch := by
  rintro ⟨h', htext'⟩
  cases h with
  | pattern h =>
    rw [h] at h'
    cases h'
  | text h htext =>
    rw [h] at h'
    cases h'
    rw [htext] at htext'
    cases htext'

theorem rejects_or_tells (engine : Engine) (pattern : String) (flags : Flags) (text : String) :
    (∃ reason, engine.Rejects pattern flags text reason) ∨
      ∃ isMatch, engine.Tells pattern flags text isMatch := by
  cases h : engine pattern flags with
  | error reason => exact .inl ⟨reason, .pattern h⟩
  | ok test =>
    cases htext : test text with
    | error reason => exact .inl ⟨reason, .text h htext⟩
    | ok isMatch => exact .inr ⟨isMatch, .intro h htext⟩

end Pattern.Engine

/-! ## Replies -/

namespace Operator

/-- The modifiers among the arguments of a pattern rule. -/
def modifiersOf (args : List String) : String := (args[0]?).getD ""

/-- The pattern among the arguments of a pattern rule. -/
def patternOf (args : List String) : String := (args[1]?).getD ""

variable {φ : Type} [Field φ] {engine : Engine} {f : φ} {mode : Option Mode} {args : List String}

/-- A pattern rule has something to do: there is a value, and there is a pattern. -/
structure Matchable (f : φ) (args : List String) : Prop where
  value : Field.value f ≠ ""
  pattern : patternOf args ≠ ""

theorem regexp_of_not_matchable (h : ¬ Matchable f args) : regexp engine f mode args = .pass := by
  have hempty : (Field.value f).isEmpty || (patternOf args).isEmpty := by
    by_contra hnone
    rw [Bool.or_eq_true, not_or, String.isEmpty_iff, String.isEmpty_iff] at hnone
    exact h ⟨hnone.1, hnone.2⟩
  exact if_pos hempty

/-- With something to do, a pattern rule goes by its modifiers first. -/
theorem regexp_of_matchable (h : Matchable f args) :
    regexp engine f mode args =
      match readModifiers (modifiersOf args) with
      | .error fault => .broken (.invalidModifiers (modifiersOf args) fault)
      | .ok flags =>
        match engine (patternOf args) flags with
        | .error reason => .broken (.invalidPattern (patternOf args) reason)
        | .ok test =>
          match test (Field.value f) with
          | .error reason => .broken (.invalidPattern (patternOf args) reason)
          | .ok isMatch => .require isMatch := by
  have hfull : ¬ ((Field.value f).isEmpty || (patternOf args).isEmpty) = true := by
    rw [Bool.or_eq_true, not_or, String.isEmpty_iff, String.isEmpty_iff]
    exact ⟨h.value, h.pattern⟩
  exact if_neg hfull

theorem exists_fault_regexp (mode : Option Mode) (h : Matchable f args)
    (hmodifiers : ¬ AreModifiers (modifiersOf args).toList) :
    ∃ fault, IsFirstFault (modifiersOf args).toList fault ∧ ∀ engine : Engine,
      regexp engine f mode args = .broken (.invalidModifiers (modifiersOf args) fault) := by
  obtain ⟨fault, hread, hfault⟩ := exists_fault_of_readModifiers hmodifiers
  refine ⟨fault, hfault, fun engine => ?_⟩
  rw [regexp_of_matchable h, hread]

theorem regexp_of_rejects (h : Matchable f args)
    (hmodifiers : AreModifiers (modifiersOf args).toList) {reason : String}
    (hrejects : engine.Rejects (patternOf args) (flagsOf (modifiersOf args).toList)
      (Field.value f) reason) :
    regexp engine f mode args = .broken (.invalidPattern (patternOf args) reason) := by
  rw [regexp_of_matchable h, readModifiers_of_areModifiers hmodifiers]
  cases hrejects with
  | pattern hpattern => simp only [hpattern]
  | text hpattern htext => simp only [hpattern, htext]

theorem regexp_of_tells (h : Matchable f args)
    (hmodifiers : AreModifiers (modifiersOf args).toList) {isMatch : Bool}
    (htells : engine.Tells (patternOf args) (flagsOf (modifiersOf args).toList)
      (Field.value f) isMatch) :
    regexp engine f mode args = .require isMatch := by
  obtain ⟨hpattern, htext⟩ := htells
  simp only [regexp_of_matchable h, readModifiers_of_areModifiers hmodifiers, hpattern, htext]

/-- The replies of a pattern rule. -/
inductive RegexpReply (engine : Engine) (f : φ) (args : List String) : Reply → Prop
  | idle (h : ¬ Matchable f args) : RegexpReply engine f args .pass
  | misread (h : Matchable f args) (hmodifiers : ¬ AreModifiers (modifiersOf args).toList)
      (fault : ModifierFault) :
      RegexpReply engine f args (.broken (.invalidModifiers (modifiersOf args) fault))
  | rejected (h : Matchable f args) (hmodifiers : AreModifiers (modifiersOf args).toList)
      {reason : String} (hrejects : engine.Rejects (patternOf args)
        (flagsOf (modifiersOf args).toList) (Field.value f) reason) :
      RegexpReply engine f args (.broken (.invalidPattern (patternOf args) reason))
  | judged (h : Matchable f args) (hmodifiers : AreModifiers (modifiersOf args).toList)
      {isMatch : Bool} (htells : engine.Tells (patternOf args)
        (flagsOf (modifiersOf args).toList) (Field.value f) isMatch) :
      RegexpReply engine f args (.require isMatch)

theorem regexpReply_regexp (engine : Engine) (f : φ) (mode : Option Mode) (args : List String) :
    RegexpReply engine f args (regexp engine f mode args) := by
  by_cases h : Matchable f args
  · by_cases hmodifiers : AreModifiers (modifiersOf args).toList
    · obtain ⟨reason, hrejects⟩ | ⟨isMatch, htells⟩ := engine.rejects_or_tells (patternOf args)
        (flagsOf (modifiersOf args).toList) (Field.value f)
      · rw [regexp_of_rejects h hmodifiers hrejects]
        exact .rejected h hmodifiers hrejects
      · rw [regexp_of_tells h hmodifiers htells]
        exact .judged h hmodifiers htells
    · obtain ⟨fault, -, hfault⟩ := exists_fault_regexp mode h hmodifiers
      rw [hfault]
      exact .misread h hmodifiers fault
  · rw [regexp_of_not_matchable h]
    exact .idle h

/-! ## The law -/

theorem exists_error_regexp_iff :
    (∃ e, (regexp engine f mode args).error? = some e) ↔
      Matchable f args ∧ (¬ AreModifiers (modifiersOf args).toList ∨
        ∃ reason, engine.Rejects (patternOf args) (flagsOf (modifiersOf args).toList)
          (Field.value f) reason) := by
  have hreply := regexpReply_regexp engine f mode args
  generalize regexp engine f mode args = reply at hreply
  cases hreply with
  | idle h => exact iff_of_false (fun ⟨_, he⟩ => nomatch he) (fun hm => h hm.1)
  | misread h hmodifiers fault => exact iff_of_true ⟨_, rfl⟩ ⟨h, .inl hmodifiers⟩
  | rejected h _ hrejects => exact iff_of_true ⟨_, rfl⟩ ⟨h, .inr ⟨_, hrejects⟩⟩
  | judged h hmodifiers htells =>
    refine iff_of_false (fun ⟨_, he⟩ => nomatch he) ?_
    rintro ⟨-, hnot | ⟨reason, hrejects⟩⟩
    · exact hnot hmodifiers
    · exact hrejects.not_tells htells

theorem failed_regexp_iff :
    (regexp engine f mode args).failed = true ↔
      (regexp engine f mode args).error? = none ∧ Matchable f args ∧
        engine.Tells (patternOf args) (flagsOf (modifiersOf args).toList) (Field.value f)
          false := by
  have hreply := regexpReply_regexp engine f mode args
  generalize regexp engine f mode args = reply at hreply
  cases hreply with
  | idle h => exact iff_of_false Bool.false_ne_true (fun hm => h hm.2.1)
  | misread => exact iff_of_false Bool.false_ne_true (fun hm => nomatch hm.1)
  | rejected => exact iff_of_false Bool.false_ne_true (fun hm => nomatch hm.1)
  | @judged h hmodifiers isMatch htells =>
    cases isMatch with
    | true =>
      refine iff_of_false Bool.false_ne_true (fun hm => ?_)
      cases htells.unique hm.2.2
    | false => exact iff_of_true rfl ⟨rfl, h, htells⟩

/-- Modifiers with the same flags are as good as each other. -/
theorem regexp_eq_of_interchangeable {args' : List String}
    (hpattern : patternOf args' = patternOf args)
    (hmodifiers : AreModifiers (modifiersOf args).toList)
    (h : Interchangeable (modifiersOf args).toList (modifiersOf args').toList) :
    regexp engine f mode args' = regexp engine f mode args := by
  by_cases hm : Matchable f args
  · have hm' : Matchable f args' := ⟨hm.value, hpattern ▸ hm.pattern⟩
    rw [regexp_of_matchable hm, regexp_of_matchable hm', hpattern,
      readModifiers_of_areModifiers hmodifiers,
      readModifiers_of_areModifiers (hmodifiers.of_interchangeable h),
      flagsOf_eq_of_interchangeable h]
  · have hm' : ¬ Matchable f args' := fun hm' => hm ⟨hm'.value, hpattern ▸ hm'.pattern⟩
    rw [regexp_of_not_matchable hm, regexp_of_not_matchable hm']

/-- **Pattern rules.** Let an engine be given that may reject any pattern and any match. The rule is
broken exactly if there is a value and a pattern, and the modifiers cannot be read or the engine
rejects the pattern or its match in the value. Modifiers that cannot be read are the error whatever
the engine is, with the first fault in them; otherwise the pattern is the error, with the engine's
reason. A broken rule does not fail the value. One that is not broken fails it exactly if there is a
value and a pattern that does not match in it. All this stays the same when modifiers that can be
read are put in another order, or when idle ones come or go and none is repeated. -/
theorem regexp_error_iff_and_failed_iff (engine : Engine) (f : φ) (mode : Option Mode)
    (args : List String) :
    ((∃ e, (regexp engine f mode args).error? = some e) ↔
      Matchable f args ∧ (¬ AreModifiers (modifiersOf args).toList ∨
        ∃ reason, engine.Rejects (patternOf args) (flagsOf (modifiersOf args).toList)
          (Field.value f) reason)) ∧
    (Matchable f args → ¬ AreModifiers (modifiersOf args).toList →
      ∃ fault, IsFirstFault (modifiersOf args).toList fault ∧ ∀ engine' : Engine,
        regexp engine' f mode args = .broken (.invalidModifiers (modifiersOf args) fault)) ∧
    (Matchable f args → AreModifiers (modifiersOf args).toList →
      ∀ reason, engine.Rejects (patternOf args) (flagsOf (modifiersOf args).toList)
        (Field.value f) reason →
          regexp engine f mode args = .broken (.invalidPattern (patternOf args) reason)) ∧
    ((regexp engine f mode args).failed = true ↔
      (regexp engine f mode args).error? = none ∧ Matchable f args ∧
        engine.Tells (patternOf args) (flagsOf (modifiersOf args).toList) (Field.value f)
          false) ∧
    (AreModifiers (modifiersOf args).toList → ∀ args', patternOf args' = patternOf args →
      (modifiersOf args').toList.Perm (modifiersOf args).toList ∨
        Interchangeable (modifiersOf args).toList (modifiersOf args').toList →
      regexp engine f mode args' = regexp engine f mode args) := by
  refine ⟨exists_error_regexp_iff, exists_fault_regexp mode, ?_, failed_regexp_iff, ?_⟩
  · intro h hmodifiers reason hrejects
    exact regexp_of_rejects h hmodifiers hrejects
  · rintro hmodifiers args' hpattern (hperm | h)
    · exact regexp_eq_of_interchangeable hpattern hmodifiers
        (hmodifiers.interchangeable_of_perm hperm)
    · exact regexp_eq_of_interchangeable hpattern hmodifiers h

end Operator

/-! ## A code in capitals -/

/-- A field with a code in capitals, and blanks around it. -/
def codeControl : PlainControl where
  form := { id := "f" }
  field := { id := "a", value := " A-1\n" }

/-- A modifier that a test goes by makes the code match, with one idle modifier as with another. One
that is repeated is at fault under every engine, and so is a pattern that the engine rejects. -/
theorem regexp_error_iff_and_failed_iff_codeControl :
    Operator.Matchable codeControl ["gi", "^a-1$"] ∧ AreModifiers "gi".toList ∧
      Interchangeable "gi".toList "iu".toList ∧
      Operator.regexp .standard codeControl none ["iu", "^a-1$"] = .pass ∧
      ¬ AreModifiers "gig".toList ∧
      (∃ fault, ∀ engine : Engine, Operator.regexp engine codeControl none ["gig", "^a-1$"] =
        .broken (.invalidModifiers "gig" fault)) ∧
      Operator.regexp .standard codeControl none ["gi", "(a"] =
        .broken (.invalidPattern "(a" "unclosed group") := by
  have hmodifiers : AreModifiers "gi".toList := by decide
  have hrepeated : ¬ AreModifiers "gig".toList := by decide
  have hmatchable : Operator.Matchable codeControl ["gi", "^a-1$"] := ⟨by decide, by decide⟩
  have hidle : Interchangeable "gi".toList "iu".toList := by
    refine ⟨by decide, fun c hc => ?_⟩
    simp only [idleModifiers, List.mem_cons, List.not_mem_nil, or_false, not_or] at hc
    simp [hc]
  have hunclosed : Pattern.Expr.read (flagsOf "gi".toList) "(a" = .error .unclosedGroup :=
    rfl
  have hrejects : Engine.Rejects .standard "(a" (flagsOf "gi".toList) "A-1" "unclosed group" := by
    refine .pattern ?_
    rw [Engine.standard, hunclosed]
    rfl
  obtain ⟨-, -, -, -, hsame⟩ :=
    Operator.regexp_error_iff_and_failed_iff .standard codeControl none ["gi", "^a-1$"]
  obtain ⟨-, hfault, -⟩ :=
    Operator.regexp_error_iff_and_failed_iff .standard codeControl none ["gig", "^a-1$"]
  obtain ⟨-, -, hreason, -⟩ :=
    Operator.regexp_error_iff_and_failed_iff .standard codeControl none ["gi", "(a"]
  obtain ⟨fault, -, hbroken⟩ := hfault ⟨by decide, by decide⟩ hrepeated
  refine ⟨hmatchable, hmodifiers, hidle, ?_, hrepeated, ⟨fault, hbroken⟩, ?_⟩
  · rw [hsame hmodifiers ["iu", "^a-1$"] rfl (.inr hidle)]
    decide +kernel
  · exact hreason ⟨by decide, by decide⟩ hmodifiers "unclosed group" hrejects

end FormRules
