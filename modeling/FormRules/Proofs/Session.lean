import FormRules.Validator.Session
import FormRules.Proofs.Effects

/-!
# The law of one session

A session is described by a relation between what it depends on (configuration, operators, the
field, the mode and the display state before) and how it comes out (result, display state after,
notice). `Validator.validate` follows that relation and changes nothing else.

* `RuleText`: the rule text that counts.
* `DecidesAt`: the first rule whose handler fails the pass or finds the rule broken.
* `Session`: how a session comes out.
* `session_validate`: every session comes out as the relation says, and touches nothing else.
* `displayState_validate`, `findings_validate`: what a session writes, and what it finds.
* `validate_withRegistry`: rules behind the one that decides are not judged.
* `exists_session_and_validate_settled`: all of it in one statement.
-/

namespace FormRules

variable {φ : Type}

/-! ## Specification -/

/-- A reply that ends a session: the handler failed the pass, or found the rule broken. -/
def Reply.Decisive (reply : Reply) : Prop := reply.failed = true ∨ reply.error?.isSome = true

instance (reply : Reply) : Decidable reply.Decisive :=
  inferInstanceAs (Decidable (reply.failed = true ∨ reply.error?.isSome = true))

/-- The reply of the handler of a rule, started on a good pass; none without a handler. -/
def Registry.reply? (r : Registry φ) (f : φ) (mode : Option Mode) (rule : Rule) : Option Reply :=
  (r.handler? rule.operator).map fun handler => handler f mode rule.args

/-- No handler of the first `n` rules ends the session. Rules without a handler are passed over. -/
def Registry.UndecidedBefore (r : Registry φ) (f : φ) (mode : Option Mode) (rules : List Rule)
    (n : Nat) : Prop :=
  ∀ j < n, ∀ rule, rules[j]? = some rule →
    ∀ reply, r.reply? f mode rule = some reply → ¬ reply.Decisive

/-- The first rule that ends the session, with its place and the reply of its handler. -/
structure Registry.DecidesAt (r : Registry φ) (f : φ) (mode : Option Mode) (rules : List Rule)
    (i : Nat) (rule : Rule) (reply : Reply) : Prop where
  rule_at : rules[i]? = some rule
  reply_eq : r.reply? f mode rule = some reply
  decisive : reply.Decisive
  least : r.UndecidedBefore f mode rules i

variable [Field φ]

/-- The rule text that counts for a field in a mode: that of the attribute of the mode if it is
there and not empty, else that of the general attribute if it is there and not empty. -/
inductive RuleText (c : Config) (f : φ) (mode : Option Mode) (text : String) : Prop
  | ofMode {m : Mode} (hm : mode = some m)
      (there : attribute? f (c.modeRuleAttribute m) = some text) (filled : text ≠ "")
  | general
      (other : ∀ m, mode = some m → ∀ t, attribute? f (c.modeRuleAttribute m) = some t → t = "")
      (there : attribute? f c.ruleAttribute = some text) (filled : text ≠ "")

/-- The text that observers get with a failure of a field. -/
def Config.failureText (c : Config) (f : φ) : String :=
  (filledAttribute? f c.errorTextAttribute).getD c.defaultErrorText

/-- How a session over a field comes out: its result, the display state of the field afterwards and
the notice to observers, if there is one. The display state `before` tells whether a failure is
news. -/
inductive Session (c : Config) (r : Registry φ) (f : φ) (mode : Option Mode)
    (before : DisplayState) : Except Error Report → DisplayState → Option Notice → Prop
  | disabled (h : Field.isDisabled f = true) :
      Session c r f mode before (.ok (.exempt .disabled)) .neutral none
  | noRules (h : Field.isDisabled f = false) (none_counts : ∀ text, ¬ RuleText c f mode text) :
      Session c r f mode before (.ok (.exempt .noRules)) before none
  | passed {text : String} (h : Field.isDisabled f = false) (counts : RuleText c f mode text)
      (undecided : r.UndecidedBefore f mode (Rule.parse text) (Rule.parse text).length) :
      Session c r f mode before (.ok .passed) .valid (some (.valid (Field.key f)))
  | broken {text : String} {i : Nat} {rule : Rule} {reply : Reply} {e : Error}
      (h : Field.isDisabled f = false) (counts : RuleText c f mode text)
      (decides : r.DecidesAt f mode (Rule.parse text) i rule reply)
      (error : reply.error? = some e) :
      Session c r f mode before (.error e) before none
  | failed {text : String} {i : Nat} {rule : Rule} {reply : Reply}
      (h : Field.isDisabled f = false) (counts : RuleText c f mode text)
      (decides : r.DecidesAt f mode (Rule.parse text) i rule reply)
      (sound : reply.error? = none) :
      Session c r f mode before
        (.ok (.failed ⟨i, rule.operator, rule.args⟩ (before != .invalid))) .invalid
        (if before = .invalid then none
          else some (.invalid (Field.key f) ⟨i, rule.operator, rule.args⟩ (c.failureText f)))

/-- The display state that a session writes by its result. One that finds its rules broken writes
none, and neither does one without rules. -/
def writtenState? : Except Error Report → Option DisplayState
  | .ok .passed => some .valid
  | .ok (.failed _ _) => some .invalid
  | .ok (.exempt .disabled) => some .neutral
  | .ok (.exempt .noRules) => none
  | .error _ => none

/-- What a session found, without whether observers were told. -/
def Report.unheard : Report → Report
  | .failed failure _ => .failed failure false
  | report => report

/-- A rule that a session over a field puts to its handler: one of the rules that count, with no
decisive one in front. -/
def Asked (c : Config) (r : Registry φ) (f : φ) (mode : Option Mode) (rule : Rule) : Prop :=
  Field.isDisabled f = false ∧ ∃ text i, RuleText c f mode text ∧
    (Rule.parse text)[i]? = some rule ∧ r.UndecidedBefore f mode (Rule.parse text) i

namespace Validator

/-- A session of a field with key `k` left the display state `state` and told `notice`. Nothing
else changed but the trace. -/
structure Settled (v : Validator φ) (k : FieldKey) (state : DisplayState) (notice : Option Notice)
    (v' : Validator φ) : Prop extends Steady v v' where
  displayState : ∀ k', v'.displayState k' = if k' = k then state else v.displayState k'
  calls : calls v'.journal =
    FormRules.calls v.journal ++ notice.toList.flatMap (callsOf v.observers.length)

/-- The validator with other operators. -/
def withRegistry (r : Registry φ) (v : Validator φ) : Validator φ := { v with registry := r }

end Validator

/-! ## The rule text -/

theorem filledAttribute?_eq_some {α : Type} [Attributed α] {a : α} {name text : String} :
    filledAttribute? a name = some text ↔ attribute? a name = some text ∧ text ≠ "" := by
  rw [filledAttribute?, Option.filter_eq_some_iff]
  simp

theorem filledAttribute?_eq_none {α : Type} [Attributed α] {a : α} {name : String} :
    filledAttribute? a name = none ↔ ∀ t, attribute? a name = some t → t = "" := by
  rw [filledAttribute?, Option.filter_eq_none_iff]
  simp

theorem rules?_eq_some {v : Validator φ} {f : φ} {mode : Option Mode} {text : String} :
    v.rules? f mode = some text ↔ RuleText v.config f mode text := by
  unfold Validator.rules?
  constructor
  · intro h
    cases hm : mode.bind fun m => filledAttribute? f (v.config.modeRuleAttribute m) with
    | some t =>
      rw [hm] at h
      cases h
      obtain ⟨m, rfl, ht⟩ := Option.bind_eq_some_iff.1 hm
      obtain ⟨there, filled⟩ := filledAttribute?_eq_some.1 ht
      exact .ofMode rfl there filled
    | none =>
      rw [hm] at h
      obtain ⟨there, filled⟩ := filledAttribute?_eq_some.1 h
      refine .general (fun m hmode t ht => ?_) there filled
      rw [Option.bind_eq_none_iff] at hm
      exact filledAttribute?_eq_none.1 (hm m hmode) t ht
  · rintro (⟨rfl, there, filled⟩ | ⟨other, there, filled⟩)
    · have h := filledAttribute?_eq_some.2 ⟨there, filled⟩
      simp [h]
    · have h := filledAttribute?_eq_some.2 ⟨there, filled⟩
      have hnone : (mode.bind fun m => filledAttribute? f (v.config.modeRuleAttribute m)) = none :=
        Option.bind_eq_none_iff.2 fun m hm => filledAttribute?_eq_none.2 (other m hm)
      rw [hnone, h]
      rfl

theorem rules?_eq_none {v : Validator φ} {f : φ} {mode : Option Mode} :
    v.rules? f mode = none ↔ ∀ text, ¬ RuleText v.config f mode text := by
  rw [Option.eq_none_iff_forall_ne_some]
  exact forall_congr' fun text => not_congr rules?_eq_some

/-! ## The first decisive rule -/

namespace Registry

omit [Field φ]

variable {r r' : Registry φ} {f : φ} {mode : Option Mode} {rules : List Rule}

theorem undecidedBefore_zero : r.UndecidedBefore f mode rules 0 :=
  fun j hj => absurd hj (Nat.not_lt_zero j)

theorem undecidedBefore_cons {head : Rule} {n : Nat} :
    r.UndecidedBefore f mode (head :: rules) (n + 1) ↔
      (∀ reply, r.reply? f mode head = some reply → ¬ reply.Decisive) ∧
        r.UndecidedBefore f mode rules n := by
  constructor
  · intro h
    exact ⟨h 0 (Nat.succ_pos n) head rfl,
      fun j hj rule hr => h (j + 1) (Nat.succ_lt_succ hj) rule hr⟩
  · rintro ⟨hhead, h⟩ j hj rule hr
    cases j with
    | zero =>
      cases hr
      exact hhead
    | succ j => exact h j (Nat.lt_of_succ_lt_succ hj) rule hr

theorem DecidesAt.cons {head rule : Rule} {i : Nat} {reply : Reply}
    (h : r.DecidesAt f mode rules i rule reply)
    (hhead : ∀ reply, r.reply? f mode head = some reply → ¬ reply.Decisive) :
    r.DecidesAt f mode (head :: rules) (i + 1) rule reply where
  rule_at := h.rule_at
  reply_eq := h.reply_eq
  decisive := h.decisive
  least := undecidedBefore_cons.2 ⟨hhead, h.least⟩

/-- Either no rule decides or there is a first one that does. -/
theorem undecided_or_decidesAt (r : Registry φ) (f : φ) (mode : Option Mode) (rules : List Rule) :
    r.UndecidedBefore f mode rules rules.length ∨
      ∃ i rule reply, r.DecidesAt f mode rules i rule reply := by
  induction rules with
  | nil => exact .inl undecidedBefore_zero
  | cons head rules ih =>
    by_cases hd : ∃ reply, r.reply? f mode head = some reply ∧ reply.Decisive
    · obtain ⟨reply, hr, hd⟩ := hd
      exact .inr ⟨0, head, reply, rfl, hr, hd, undecidedBefore_zero⟩
    · have hhead : ∀ reply, r.reply? f mode head = some reply → ¬ reply.Decisive :=
        fun reply hr hd' => hd ⟨reply, hr, hd'⟩
      rcases ih with h | ⟨i, rule, reply, h⟩
      · exact .inl (undecidedBefore_cons.2 ⟨hhead, h⟩)
      · exact .inr ⟨i + 1, rule, reply, h.cons hhead⟩

/-! ## What `judge` makes of it -/

/-- The ruling that a decisive reply to the rule at place `i` comes to. -/
def rulingOf (i : Nat) (rule : Rule) (reply : Reply) : Ruling :=
  match reply.error? with
  | some e => .broken i rule.operator e
  | none => .failed ⟨i, rule.operator, rule.args⟩

theorem judge_cons (n : Nat) (head : Rule) :
    r.judge f mode n (head :: rules) =
      match r.reply? f mode head with
      | none =>
        { r.judge f mode (n + 1) rules with
          passedOver := (n, head.operator) :: (r.judge f mode (n + 1) rules).passedOver }
      | some reply =>
        if reply.Decisive then ⟨rulingOf n head reply, []⟩
        else r.judge f mode (n + 1) rules := by
  rw [judge, reply?]
  cases r.handler? head.operator with
  | none => rfl
  | some handler =>
    dsimp only [Option.map_some, rulingOf]
    cases he : (handler f mode head.args).error? with
    | some e => simp [Reply.Decisive, he]
    | none => simp [Reply.Decisive, he]

theorem judge_cons_of_undecided {head : Rule}
    (hhead : ∀ reply, r.reply? f mode head = some reply → ¬ reply.Decisive) (n : Nat) :
    (r.judge f mode n (head :: rules)).ruling = (r.judge f mode (n + 1) rules).ruling := by
  rw [judge_cons]
  cases h : r.reply? f mode head with
  | none => rfl
  | some reply =>
    dsimp only
    rw [if_neg (hhead reply h)]

theorem ruling_of_undecided (h : r.UndecidedBefore f mode rules rules.length) (n : Nat) :
    (r.judge f mode n rules).ruling = .passed := by
  induction rules generalizing n with
  | nil => rfl
  | cons head rules ih =>
    obtain ⟨hhead, h⟩ := undecidedBefore_cons.1 h
    rw [judge_cons_of_undecided hhead, ih h]

theorem ruling_of_decidesAt {i : Nat} {rule : Rule} {reply : Reply}
    (h : r.DecidesAt f mode rules i rule reply) (n : Nat) :
    (r.judge f mode n rules).ruling = rulingOf (n + i) rule reply := by
  induction rules generalizing i n with
  | nil => cases h.rule_at
  | cons head rules ih =>
    cases i with
    | zero =>
      cases h.rule_at
      rw [judge_cons, h.reply_eq]
      dsimp only
      rw [if_pos h.decisive]
      rfl
    | succ i =>
      obtain ⟨hhead, hleast⟩ := undecidedBefore_cons.1 h.least
      rw [judge_cons_of_undecided hhead, ih ⟨h.rule_at, h.reply_eq, h.decisive, hleast⟩,
        Nat.add_right_comm, Nat.add_assoc]

/-- A judgement hangs on the replies to the rules up to the first decisive one, and on no other. -/
theorem judge_congr
    (h : ∀ i rule, rules[i]? = some rule → r.UndecidedBefore f mode rules i →
      r'.reply? f mode rule = r.reply? f mode rule) (n : Nat) :
    r'.judge f mode n rules = r.judge f mode n rules := by
  induction rules generalizing n with
  | nil => rfl
  | cons head rules ih =>
    have hhead := h 0 head rfl undecidedBefore_zero
    have hrest (hu : ∀ reply, r.reply? f mode head = some reply → ¬ reply.Decisive) :
        r'.judge f mode (n + 1) rules = r.judge f mode (n + 1) rules :=
      ih (fun i rule hr hi => h (i + 1) rule hr (undecidedBefore_cons.2 ⟨hu, hi⟩)) (n + 1)
    rw [judge_cons, judge_cons, hhead]
    cases hr : r.reply? f mode head with
    | none =>
      dsimp only
      rw [hrest (fun reply h => by rw [hr] at h; cases h)]
    | some reply =>
      dsimp only
      split
      · rfl
      · rename_i hu
        refine hrest fun reply' h => ?_
        rw [hr] at h
        cases h
        exact hu

end Registry

namespace Validator

variable {v v' v'' : Validator φ}

/-! ## What a session leaves -/

omit [Field φ] in
theorem Quiet.settled (h : Quiet v v') (k : FieldKey) : Settled v k (v.displayState k) none v' where
  toSteady := h.toSteady
  displayState k' := by
    rw [h.displayState]
    split
    · rename_i hk
      rw [hk]
    · rfl
  calls := by rw [h.calls, Option.toList_none, List.flatMap_nil, List.append_nil]

omit [Field φ] in
theorem Quiet.trans_settled {k : FieldKey} {state : DisplayState} {notice : Option Notice}
    (h : Quiet v v') (h' : Settled v' k state notice v'') : Settled v k state notice v'' where
  toSteady := h.toSteady.trans h'.toSteady
  displayState k' := by rw [h'.displayState, h.displayState]
  calls := by rw [h'.calls, h.calls, h.observers]

omit [Field φ] in
theorem Settled.trans_quiet {k : FieldKey} {state : DisplayState} {notice : Option Notice}
    (h : Settled v k state notice v') (h' : Quiet v' v'') : Settled v k state notice v'' where
  toSteady := h.toSteady.trans h'.toSteady
  displayState k' := by rw [h'.displayState, h.displayState]
  calls := by rw [h'.calls, h.calls]

omit [Field φ] in
theorem settled_display (k : FieldKey) (state : DisplayState) (v : Validator φ) :
    Settled v k state none (v.display k state) where
  toSteady := steady_display k state v
  displayState k' := displayState_display k k' state v
  calls := by rw [Option.toList_none, List.flatMap_nil, List.append_nil]; rfl

theorem settled_succeed (v : Validator φ) (f : φ) :
    Settled v (Field.key f) .valid (some (.valid (Field.key f))) (v.succeed f).1 where
  toSteady := (steady_display _ _ v).trans ((quiet_say _ _).toSteady.trans (steady_tell _ _))
  displayState k' := displayState_display _ k' _ v
  calls := by
    show calls (tell _ _).journal = _
    rw [calls_tell, (quiet_say _ _).calls, Option.toList_some, List.flatMap_singleton]
    rfl

theorem settled_fail (v : Validator φ) (f : φ) (failure : Failure) :
    Settled v (Field.key f) .invalid
      (if v.displayState (Field.key f) = .invalid then none
        else some (.invalid (Field.key f) failure (v.config.failureText f)))
      (v.fail f failure).1 := by
  have hsay := (settled_display (Field.key f) .invalid v).trans_quiet
    (quiet_say (.invalid (Field.key f) failure.index failure.operator
      (v.displayState (Field.key f) != .invalid)) _)
  rw [fail]
  by_cases hb : v.displayState (Field.key f) = .invalid
  · simpa [hb] using hsay
  · simp only [hb, bne_iff_ne, ne_eq, not_false_eq_true, if_true, if_false]
    refine ⟨hsay.toSteady.trans (steady_notify _ _ _ _), fun k' => ?_, ?_⟩
    · rw [displayState, states_notify]
      exact hsay.displayState k'
    · rw [calls_notify, hsay.calls, hsay.observers, Option.toList_none, List.flatMap_nil,
        List.append_nil, Option.toList_some, List.flatMap_singleton]
      rfl

/-! ## The law -/

theorem conclude_passed (v : Validator φ) (f : φ) :
    v.conclude f .passed = ((v.succeed f).1, .ok .passed) := rfl

theorem conclude_broken (v : Validator φ) (f : φ) (index : Nat) (operator : String) (e : Error) :
    v.conclude f (.broken index operator e) =
      (v.say (.broken (Field.key f) index operator e), .error e) := rfl

theorem conclude_failed (v : Validator φ) (f : φ) (i : Nat) (rule : Rule) {reply : Reply}
    (he : reply.error? = none) :
    v.conclude f (Registry.rulingOf i rule reply) =
      ((v.fail f ⟨i, rule.operator, rule.args⟩).1,
        .ok (.failed ⟨i, rule.operator, rule.args⟩
          (v.displayState (Field.key f) != .invalid))) := by
  rw [Registry.rulingOf, he]
  rfl

/-- The validator once the rules without a handler have been traced. -/
def passOver (v : Validator φ) (k : FieldKey) (passed : List (Nat × String)) : Validator φ :=
  passed.foldl (fun v (index, operator) => v.say (.unregistered k index operator)) v

omit [Field φ] in
theorem quiet_passOver (v : Validator φ) (k : FieldKey) (passed : List (Nat × String)) :
    Quiet v (v.passOver k passed) :=
  quiet_foldl (fun _ _ => quiet_say _ _) passed v

theorem validate_of_rules {f : φ} {mode : Option Mode} {text : String}
    (hd : Field.isDisabled f = false) (ht : v.rules? f mode = some text) :
    v.validate f mode =
      (v.passOver (Field.key f) (v.registry.judge f mode 0 (Rule.parse text)).passedOver).conclude f
        (v.registry.judge f mode 0 (Rule.parse text)).ruling := by
  rw [validate, hd, ht]
  rfl

omit v v' v'' in
theorem exists_session (c : Config) (r : Registry φ) (f : φ) (mode : Option Mode)
    (before : DisplayState) :
    ∃ result state notice, Session c r f mode before result state notice := by
  cases hd : Field.isDisabled f with
  | true => exact ⟨_, _, _, .disabled hd⟩
  | false =>
    by_cases hc : ∃ text, RuleText c f mode text
    · obtain ⟨text, counts⟩ := hc
      rcases r.undecided_or_decidesAt f mode (Rule.parse text) with hu | ⟨i, rule, reply, decides⟩
      · exact ⟨_, _, _, .passed hd counts hu⟩
      · cases he : reply.error? with
        | some e => exact ⟨_, _, _, .broken hd counts decides he⟩
        | none => exact ⟨_, _, _, .failed hd counts decides he⟩
    · exact ⟨_, _, _, .noRules hd fun text counts => hc ⟨text, counts⟩⟩

/-- A session comes out as the relation says. -/
theorem session_validate {f : φ} {mode : Option Mode} {result : Except Error Report}
    {state : DisplayState} {notice : Option Notice}
    (h : Session v.config v.registry f mode (v.displayState (Field.key f)) result state notice) :
    (v.validate f mode).2 = result ∧
      Settled v (Field.key f) state notice (v.validate f mode).1 := by
  cases h with
  | disabled hd =>
    rw [validate, if_pos hd]
    exact ⟨rfl, (settled_display _ _ v).trans_quiet (quiet_say _ _)⟩
  | noRules hd none_counts =>
    rw [validate, hd, rules?_eq_none.2 none_counts]
    exact ⟨rfl, (quiet_say _ v).settled _⟩
  | @passed text hd counts undecided =>
    have hq := quiet_passOver v (Field.key f)
      (v.registry.judge f mode 0 (Rule.parse text)).passedOver
    rw [validate_of_rules hd (rules?_eq_some.2 counts), Registry.ruling_of_undecided undecided,
      conclude_passed]
    exact ⟨rfl, hq.trans_settled (settled_succeed _ f)⟩
  | @broken text i rule reply e hd counts decides error =>
    have hq := quiet_passOver v (Field.key f)
      (v.registry.judge f mode 0 (Rule.parse text)).passedOver
    rw [validate_of_rules hd (rules?_eq_some.2 counts), Registry.ruling_of_decidesAt decides,
      Nat.zero_add, Registry.rulingOf, error, conclude_broken]
    exact ⟨rfl, (hq.trans (quiet_say _ _)).settled _⟩
  | @failed text i rule reply hd counts decides sound =>
    have hq := quiet_passOver v (Field.key f)
      (v.registry.judge f mode 0 (Rule.parse text)).passedOver
    rw [validate_of_rules hd (rules?_eq_some.2 counts), Registry.ruling_of_decidesAt decides,
      Nat.zero_add, conclude_failed _ _ _ _ sound, hq.displayState]
    refine ⟨rfl, ?_⟩
    dsimp only
    have hfail := settled_fail (v.passOver (Field.key f)
      (v.registry.judge f mode 0 (Rule.parse text)).passedOver) f ⟨i, rule.operator, rule.args⟩
    rw [hq.displayState, hq.config] at hfail
    exact hq.trans_settled hfail

/-- Two sessions that depend on the same come out the same. -/
theorem validate_congr {w : Validator φ} {f : φ} {mode : Option Mode} (hc : w.config = v.config)
    (hr : w.registry = v.registry)
    (hs : w.displayState (Field.key f) = v.displayState (Field.key f)) :
    (w.validate f mode).2 = (v.validate f mode).2 ∧
      (w.validate f mode).1.displayState (Field.key f) =
        (v.validate f mode).1.displayState (Field.key f) := by
  obtain ⟨result, state, notice, h⟩ :=
    exists_session v.config v.registry f mode (v.displayState (Field.key f))
  obtain ⟨hv, hvs⟩ := session_validate h
  obtain ⟨hw, hws⟩ := session_validate (v := w) (by rwa [hc, hr, hs])
  rw [hw, hv, hws.displayState, hvs.displayState, if_pos rfl, if_pos rfl]
  exact ⟨rfl, rfl⟩

/-! ## What a session writes and what it finds -/

/-- The display state of its field after a session is the one that its result writes, or the one
before if it writes none. -/
theorem displayState_validate (v : Validator φ) (f : φ) (mode : Option Mode) :
    (v.validate f mode).1.displayState (Field.key f) =
      (writtenState? (v.validate f mode).2).getD (v.displayState (Field.key f)) := by
  obtain ⟨result, state, notice, h⟩ :=
    exists_session v.config v.registry f mode (v.displayState (Field.key f))
  obtain ⟨hresult, hsettled⟩ := session_validate h
  rw [hresult, hsettled.displayState, if_pos rfl]
  cases h <;> rfl

omit v v' v'' in
/-- What a session finds does not hang on the display state before. -/
theorem exists_session_of_before {c : Config} {r : Registry φ} {f : φ} {mode : Option Mode}
    {before : DisplayState} {result : Except Error Report} {state : DisplayState}
    {notice : Option Notice} (h : Session c r f mode before result state notice)
    (before' : DisplayState) :
    ∃ result' state' notice', Session c r f mode before' result' state' notice' ∧
      result'.map Report.unheard = result.map Report.unheard := by
  cases h with
  | disabled hd => exact ⟨_, _, _, .disabled hd, rfl⟩
  | noRules hd none_counts => exact ⟨_, _, _, .noRules hd none_counts, rfl⟩
  | passed hd counts undecided => exact ⟨_, _, _, .passed hd counts undecided, rfl⟩
  | broken hd counts decides error => exact ⟨_, _, _, .broken hd counts decides error, rfl⟩
  | failed hd counts decides sound => exact ⟨_, _, _, .failed hd counts decides sound, rfl⟩

theorem findings_validate {w : Validator φ} (hc : w.config = v.config)
    (hr : w.registry = v.registry) (f : φ) (mode : Option Mode) :
    (w.validate f mode).2.map Report.unheard = (v.validate f mode).2.map Report.unheard := by
  obtain ⟨result, state, notice, h⟩ :=
    exists_session v.config v.registry f mode (v.displayState (Field.key f))
  obtain ⟨result', state', notice', h', heq⟩ :=
    exists_session_of_before h (w.displayState (Field.key f))
  rw [← hc, ← hr] at h'
  rw [(session_validate h).1, (session_validate h').1, heq]

omit [Field φ] v v' v'' in
theorem writtenState?_map_unheard (result : Except Error Report) :
    writtenState? (result.map Report.unheard) = writtenState? result := by
  cases result with
  | error e => rfl
  | ok report => cases report <;> rfl

/-! ## Rules that are not judged -/

omit [Field φ] in
theorem withRegistry_foldl {α : Type} {change : Validator φ → α → Validator φ} (r : Registry φ)
    (h : ∀ v a, change (v.withRegistry r) a = (change v a).withRegistry r) (l : List α)
    (v : Validator φ) : l.foldl change (v.withRegistry r) = (l.foldl change v).withRegistry r :=
  List.foldl_hom (withRegistry r) fun v a => h v a

omit [Field φ] in
theorem notify_withRegistry (r : Registry φ) (v : Validator φ) (k : FieldKey) (failure : Failure)
    (message : String) :
    (v.withRegistry r).notify k failure message =
      (v.notify k failure message).withRegistry r :=
  withRegistry_foldl r (fun _ _ => rfl) (v.refusals (.invalid k failure message))
    (v.tell (.invalid k failure message))

theorem conclude_withRegistry (r : Registry φ) (v : Validator φ) (f : φ) (ruling : Ruling) :
    (v.withRegistry r).conclude f ruling =
      ((v.conclude f ruling).1.withRegistry r, (v.conclude f ruling).2) := by
  cases ruling with
  | passed => rfl
  | broken index operator e => rfl
  | failed failure =>
    have hstate (k : FieldKey) : (v.withRegistry r).displayState k = v.displayState k := rfl
    simp only [conclude, fail, hstate]
    by_cases hb : v.displayState (Field.key f) = .invalid
    · simp only [hb, bne_self_eq_false]
      rfl
    · simp only [bne_iff_ne, ne_eq, hb, not_false_eq_true, if_true]
      exact congrArg (·, _) (notify_withRegistry r
        ((v.display (Field.key f) .invalid).say (.invalid (Field.key f) failure.index
          failure.operator (v.displayState (Field.key f) != .invalid))) _ _ _)

/-- A session puts no rule to its handler but those that are asked. -/
theorem validate_withRegistry (v : Validator φ) (f : φ) (mode : Option Mode) (r : Registry φ)
    (h : ∀ rule, Asked v.config v.registry f mode rule →
      r.reply? f mode rule = v.registry.reply? f mode rule) :
    (v.withRegistry r).validate f mode =
      ((v.validate f mode).1.withRegistry r, (v.validate f mode).2) := by
  cases hd : Field.isDisabled f with
  | true =>
    rw [validate, validate, if_pos hd, if_pos hd]
    rfl
  | false =>
    cases ht : v.rules? f mode with
    | none =>
      have ht' : (v.withRegistry r).rules? f mode = none := ht
      rw [validate, validate, hd, ht, ht']
      rfl
    | some text =>
      have ht' : (v.withRegistry r).rules? f mode = some text := ht
      have hj : r.judge f mode 0 (Rule.parse text) =
          v.registry.judge f mode 0 (Rule.parse text) :=
        Registry.judge_congr (fun i rule hr hu =>
          h rule ⟨hd, text, i, rules?_eq_some.1 ht, hr, hu⟩) 0
      rw [validate_of_rules hd ht, validate_of_rules hd ht']
      show Validator.conclude (passOver _ _ (Registry.judge r _ _ _ _).passedOver) f _ = _
      rw [show (v.withRegistry r).registry = r from rfl, hj, passOver,
        withRegistry_foldl r (fun _ _ => rfl), conclude_withRegistry]
      rfl

/-- **The law of a session.** It comes out in one of the ways of `Session` and leaves the validator
as that says; no handler is asked about a rule behind the one that decides, so operators may differ
there. -/
theorem exists_session_and_validate_settled (v : Validator φ) (f : φ) (mode : Option Mode) :
    (∃ result state notice,
      Session v.config v.registry f mode (v.displayState (Field.key f)) result state notice) ∧
    (∀ result state notice,
      Session v.config v.registry f mode (v.displayState (Field.key f)) result state notice →
        (v.validate f mode).2 = result ∧
          Settled v (Field.key f) state notice (v.validate f mode).1) ∧
    (∀ r : Registry φ,
      (∀ rule, Asked v.config v.registry f mode rule →
        r.reply? f mode rule = v.registry.reply? f mode rule) →
      (v.withRegistry r).validate f mode =
        ((v.validate f mode).1.withRegistry r, (v.validate f mode).2)) :=
  ⟨exists_session _ _ f mode _, fun _ _ _ => session_validate,
    fun r => validate_withRegistry v f mode r⟩

end Validator

end FormRules
