import FormRules.Proofs.Document.Places
import FormRules.Proofs.Document.RoundTrip

/-!
# Options and groups of options

An option never stands in another option of its group or selection, and a group of options never in
an option of its selection: the start tag of the inner one would have closed the outer one. But a
start tag closes one element and no more. When an option is open in a group, the start tag of the
next group closes the option alone, and the next group gets into the first one.

* `Apart`: options do not stand in options, nor groups in options.
* `apart_tagsAround`: no start tag puts them there.
* `OptionInGroup`: an option is open in a group.
* `closes_tagsAround_iff`: only then a start tag leaves an element open that it should close.
* `ofHtml_options_iff`: options and groups in documents that were read.
-/

namespace FormRules

open Markup

/-! ## Going outwards -/

namespace Markup

variable {targets barriers above : List String}

theorem meets_pair {target target' : String} :
    Meets [target, target'] barriers above ↔
      Meets [target] barriers above ∨ Meets [target'] barriers above := by
  constructor
  · rintro ⟨inner, tag, outer, rfl, htag, hb⟩
    rcases List.mem_cons.1 htag with rfl | htag
    · exact .inl ⟨inner, tag, outer, rfl, List.mem_singleton_self tag, hb⟩
    · exact .inr ⟨inner, tag, outer, rfl, htag, hb⟩
  · rintro (⟨inner, tag, outer, rfl, htag, hb⟩ | ⟨inner, tag, outer, rfl, htag, hb⟩)
    · exact ⟨inner, tag, outer, rfl, List.mem_cons.2 (.inl (List.mem_singleton.1 htag)), hb⟩
    · exact ⟨inner, tag, outer, rfl, List.mem_cons_of_mem _ htag, hb⟩

/-- What is neither a target nor a barrier is passed by. -/
theorem meets_append {inner : List String} (h : ∀ tag ∈ inner, tag ∉ targets ∧ tag ∉ barriers) :
    Meets targets barriers (inner ++ above) ↔ Meets targets barriers above := by
  induction inner with
  | nil => rfl
  | cons tag inner ih =>
    obtain ⟨⟨ht, hb⟩, hinner⟩ := List.forall_mem_cons.1 h
    rw [List.cons_append, meets_cons, ih hinner]
    simp only [ht, hb, not_false_eq_true, true_and, false_or]

/-- No option stands in an option of its group, selection or list, and no group of options in an
option of its selection or list. -/
def Apart (tag : String) (above : List String) : Prop :=
  (tag = "option" → ¬ Meets ["option"] ["optgroup", "select", "datalist"] above) ∧
    (tag = "optgroup" → ¬ Meets ["option"] ["select", "datalist"] above)

/-- An option is open, in a group of its selection or list. -/
def OptionInGroup (above : List String) : Prop :=
  Meets ["option"] ["optgroup", "select", "datalist"] above ∧
    Meets ["optgroup"] ["select", "datalist"] above

instance (above : List String) : Decidable (OptionInGroup above) :=
  inferInstanceAs (Decidable (_ ∧ _))

/-- A start tag that closes no element around it stands apart and, if it is of a group of options,
in no group of its selection or list. -/
theorem not_closes_iff {tag : String} :
    ¬ Closes tag above ↔
      Apart tag above ∧ (tag = "optgroup" → ¬ Meets ["optgroup"] ["select", "datalist"] above) := by
  rw [Closes, not_or, not_and, not_and, meets_pair, not_or, Apart, and_assoc, imp_and]

/-- Where options and groups are apart, an option that is not met before a group is not met behind
it. -/
theorem not_meets_of_nested {above : List String} (h : Nested Apart above)
    (hno : ¬ Meets ["option"] ["optgroup", "select", "datalist"] above) :
    ¬ Meets ["option"] ["select", "datalist"] above := by
  induction above with
  | nil => exact not_meets_nil _ _
  | cons tag outer ih =>
    obtain ⟨htag, houter⟩ := nested_cons.1 h
    rw [meets_cons, not_or, not_and] at hno
    rw [meets_cons, not_or, not_and]
    refine ⟨hno.1, fun hbarrier => ?_⟩
    by_cases hgroup : tag = "optgroup"
    · exact htag.2 hgroup
    · apply ih houter
      apply hno.2
      rw [List.mem_cons, not_or]
      exact ⟨hgroup, hbarrier⟩

end Markup

/-! ## Start tags -/

namespace Builder

/-- What is closed is the first option, group, selection or list from the inside. -/
theorem closeOption?_eq_some {group : Bool} {stack outer : List (String × Nat)}
    (h : closeOption? group stack = some outer) :
    ∃ inner tag, stack.map Prod.fst = inner ++ tag :: outer.map Prod.fst ∧
      (tag = "option" ∨ group = true ∧ tag = "optgroup") ∧
      ∀ t ∈ inner, t ∉ ["option", "optgroup", "select", "datalist"] := by
  induction stack with
  | nil => cases h
  | cons entry stack ih =>
    obtain ⟨tag, n⟩ := entry
    rw [closeOption?] at h
    split at h
    · rename_i htag
      cases h
      exact ⟨[], tag, rfl, .inl htag, fun t ht => absurd ht List.not_mem_nil⟩
    · rename_i hoption
      split at h
      · rename_i htag
        split at h
        · rename_i hgroup
          cases h
          exact ⟨[], tag, rfl, .inr ⟨hgroup, htag⟩, fun t ht => absurd ht List.not_mem_nil⟩
        · cases h
      · rename_i hgroup
        split at h
        · cases h
        · rename_i hbarrier
          obtain ⟨inner, tag', hstack, htag', hinner⟩ := ih h
          refine ⟨tag :: inner, tag', ?_, htag', ?_⟩
          · rw [List.map_cons, hstack]
            rfl
          · rw [List.forall_mem_cons]
            refine ⟨?_, hinner⟩
            rw [not_or] at hbarrier
            simp [hoption, hgroup, hbarrier]

variable (b : Builder)

/-- The tags around an option: the innermost option is closed if it is met before a group, selection
or list. -/
theorem tagsAround_option :
    (b.tagsAround "option" = b.openTags ∧
        ¬ Meets ["option"] ["optgroup", "select", "datalist"] b.openTags) ∨
      ∃ inner, b.openTags = inner ++ "option" :: b.tagsAround "option" := by
  have haround : b.tagsAround "option" =
      ((closeOption? false b.stack).getD b.stack).map Prod.fst := rfl
  rw [haround]
  cases hclose : closeOption? false b.stack with
  | none =>
    refine .inl ⟨rfl, fun hmeets => ?_⟩
    have hsome := (isSome_closeOption? false b.stack).2 hmeets
    rw [hclose] at hsome
    cases hsome
  | some outer =>
    obtain ⟨inner, tag, hstack, htag, -⟩ := closeOption?_eq_some hclose
    obtain rfl : tag = "option" := by simpa using htag
    exact .inr ⟨inner, hstack⟩

/-- The tags around a group of options: the innermost option or group is closed, whichever comes
first, if it is met before a selection or list. -/
theorem tagsAround_optgroup :
    (b.tagsAround "optgroup" = b.openTags ∧
        ¬ Meets ["option", "optgroup"] ["select", "datalist"] b.openTags) ∨
      ∃ inner tag, b.openTags = inner ++ tag :: b.tagsAround "optgroup" ∧
        (tag = "option" ∨ tag = "optgroup") ∧
        ∀ t ∈ inner, t ∉ ["option", "optgroup", "select", "datalist"] := by
  have haround : b.tagsAround "optgroup" =
      ((closeOption? true b.stack).getD b.stack).map Prod.fst := rfl
  rw [haround]
  cases hclose : closeOption? true b.stack with
  | none =>
    refine .inl ⟨rfl, fun hmeets => ?_⟩
    have hsome := (isSome_closeOption? true b.stack).2 hmeets
    rw [hclose] at hsome
    cases hsome
  | some outer =>
    obtain ⟨inner, tag, hstack, htag, hinner⟩ := closeOption?_eq_some hclose
    refine .inr ⟨inner, tag, hstack, ?_, hinner⟩
    simpa using htag

variable {b}

/-- No start tag puts an option or a group of options into an option. -/
theorem apart_tagsAround (h : Nested Apart b.openTags) (tag : String) :
    Apart tag (b.tagsAround tag) := by
  constructor
  · rintro rfl
    obtain ⟨haround, hno⟩ | ⟨inner, hstack⟩ := b.tagsAround_option
    · rw [haround]
      exact hno
    · exact (h inner _ _ hstack).1 rfl
  · rintro rfl
    obtain ⟨haround, hno⟩ | ⟨inner, tag, hstack, htag, -⟩ := b.tagsAround_optgroup
    · rw [haround]
      exact fun hmeets => hno (meets_pair.2 (.inl hmeets))
    · have hplace := h inner tag _ hstack
      have houter : Nested Apart (b.tagsAround "optgroup") := by
        rw [hstack] at h
        exact (nested_cons.1 h.of_append).2
      obtain rfl | rfl := htag
      · exact not_meets_of_nested houter (hplace.1 rfl)
      · exact hplace.2 rfl

/-- Where no element stands in one that its start tag should have closed, the next one does only if
it is a group of options and an option is open in a group. -/
theorem closes_tagsAround_iff (h : Nested (fun tag above => ¬ Closes tag above) b.openTags)
    (tag : String) :
    ¬ Closes tag (b.tagsAround tag) ↔ ¬ (tag = "optgroup" ∧ OptionInGroup b.openTags) := by
  have hapart : Nested Apart b.openTags :=
    fun inner tag outer hstack => (not_closes_iff.1 (h inner tag outer hstack)).1
  rw [not_closes_iff, and_iff_right (apart_tagsAround hapart tag), not_and]
  apply imp_congr_right
  rintro rfl
  rw [not_iff_not, OptionInGroup]
  obtain ⟨haround, hno⟩ | ⟨inner, tag, hstack, htag, hinner⟩ := b.tagsAround_optgroup
  · -- No option and no group is met, before the start tag or behind it.
    have hgroup : ¬ Meets ["optgroup"] ["select", "datalist"] b.openTags :=
      fun hmeets => hno (meets_pair.2 (.inr hmeets))
    rw [haround]
    simp only [hgroup, and_false]
  · have hpass : ∀ t ∈ inner, t ∉ ["option"] ∧ t ∉ ["optgroup", "select", "datalist"] := by
      intro t ht
      simpa [not_or] using hinner t ht
    have hpass' : ∀ t ∈ inner, t ∉ ["optgroup"] ∧ t ∉ ["select", "datalist"] := by
      intro t ht
      have hout := hinner t ht
      simp only [List.mem_cons, List.not_mem_nil, or_false, not_or] at hout ⊢
      exact hout.2
    have hplace : ¬ Closes tag (b.tagsAround "optgroup") := h inner tag _ hstack
    rw [hstack, meets_append hpass, meets_append hpass', meets_cons, meets_cons]
    obtain rfl | rfl := htag
    · simp
    · -- The group that is closed stood in no other group, so the next one does not either.
      simp [(not_closes_iff.1 hplace).2 rfl]

end Builder

/-! ## Documents that were read -/

namespace Document

theorem apart_ofTokens (tokens : List Token) : (ofTokens tokens).AllPlaces Apart := by
  have hstep : ∀ (b : Builder) tag, Nested Apart b.openTags →
      (Apart tag (b.tagsAround tag) ↔ ¬ False) :=
    fun b tag h => iff_of_true (Builder.apart_tagsAround h tag) not_false
  apply (@allPlaces_ofTokens_iff Apart (fun _ _ => False) hstep tokens).2
  intro before token after _ tag _
  exact not_false

theorem closed_ofTokens_iff (tokens : List Token) :
    (ofTokens tokens).AllPlaces (fun tag above => ¬ Closes tag above) ↔
      Always Builder.push
        (fun b token => token.added? = some "optgroup" → ¬ OptionInGroup b.openTags) {} tokens := by
  rw [@allPlaces_ofTokens_iff _ (fun tag above => tag = "optgroup" ∧ OptionInGroup above)
    fun b tag h => Builder.closes_tagsAround_iff h tag]
  have hkeeps : (fun (b : Builder) (token : Token) => ∀ tag, token.added? = some tag →
      ¬ (tag = "optgroup" ∧ OptionInGroup b.openTags)) =
      fun b token => token.added? = some "optgroup" → ¬ OptionInGroup b.openTags := by
    funext b token
    apply propext
    constructor
    · exact fun h htag hopen => h "optgroup" htag ⟨rfl, hopen⟩
    · rintro h tag htag ⟨rfl, hopen⟩
      exact h htag hopen
  rw [hkeeps]

/-- **Options and groups of options.** No option stands in another option of its group, selection or
list, and no group of options in an option of its selection or list. No group stands in another
group of its selection or list exactly when no start tag of a group comes while an option is open in
a group. -/
theorem ofHtml_options_iff {html : String} {d : Document} (hd : ofHtml html = .ok d) :
    (∀ n, d.tag? n = some "option" →
      ¬ Meets ["option"] ["optgroup", "select", "datalist"] (d.tagsAbove n)) ∧
    (∀ n, d.tag? n = some "optgroup" →
      ¬ Meets ["option"] ["select", "datalist"] (d.tagsAbove n)) ∧
    ∃ tokens, Token.scan html.toList = .ok tokens ∧
      ((∀ n, d.tag? n = some "optgroup" →
          ¬ Meets ["optgroup"] ["select", "datalist"] (d.tagsAbove n)) ↔
        Always Builder.push
          (fun b token => token.added? = some "optgroup" → ¬ OptionInGroup b.openTags) {}
          tokens) := by
  rw [ofHtml] at hd
  split at hd
  · rename_i tokens htokens
    cases hd
    have hapart : (ofTokens tokens).AllPlaces Apart := apart_ofTokens tokens
    refine ⟨fun n hn => (hapart n _ hn).1 rfl, fun n hn => (hapart n _ hn).2 rfl, ?_⟩
    refine ⟨tokens, htokens, ?_⟩
    rw [← closed_ofTokens_iff]
    constructor
    · intro h n tag hn
      refine not_closes_iff.2 ⟨hapart n tag hn, ?_⟩
      rintro rfl
      exact h n hn
    · exact fun h n hn => (not_closes_iff.1 (h n _ hn)).2 rfl
  · cases hd

/-- Two groups of options in a selection, each with one option. The first option has no end tag. -/
def runOnGroups : String := "<select><optgroup><option>A<optgroup><option>B</select>"

/-- The second group stands in the first one. -/
theorem not_options_runOnGroups :
    ∃ d, ofHtml runOnGroups = .ok d ∧ d.tag? 5 = some "optgroup" ∧
      d.tagsAbove 5 = ["optgroup", "select"] ∧
      Meets ["optgroup"] ["select", "datalist"] (d.tagsAbove 5) := by
  have hread : (ofHtml runOnGroups).toOption.map (fun d => (d.tag? 5, d.tagsAbove 5)) =
      some (some "optgroup", ["optgroup", "select"]) := by decide +kernel
  obtain ⟨d, hd, hplace⟩ := exists_of_map_ofHtml hread
  obtain ⟨htag, habove⟩ := Prod.mk.inj hplace
  refine ⟨d, hd, htag, habove, ?_⟩
  rw [habove]
  decide

/-- The two groups with the end tag of the first option. -/
def closedGroups : String := "<select><optgroup><option>A</option><optgroup><option>B</select>"

/-- The second group stands in the selection and not in the first group. -/
theorem options_closedGroups :
    ∃ d, ofHtml closedGroups = .ok d ∧ d.tag? 5 = some "optgroup" ∧ d.tag? 6 = some "option" ∧
      ¬ Meets ["optgroup"] ["select", "datalist"] (d.tagsAbove 5) ∧
      ¬ Meets ["option"] ["select", "datalist"] (d.tagsAbove 5) ∧
      ¬ Meets ["option"] ["optgroup", "select", "datalist"] (d.tagsAbove 6) := by
  have hread : (ofHtml closedGroups).toOption.map (fun d => (d.tag? 5, d.tag? 6)) =
      some (some "optgroup", some "option") := by decide +kernel
  obtain ⟨d, hd, htags⟩ := exists_of_map_ofHtml hread
  obtain ⟨hgroup, hoption⟩ := Prod.mk.inj htags
  obtain ⟨hoptions, hgroups, tokens, htokens, hiff⟩ := ofHtml_options_iff hd
  have hscan : (Token.scan closedGroups.toList).toOption.map (fun tokens => decide
      (Always Builder.push
        (fun b token => token.added? = some "optgroup" → ¬ OptionInGroup b.openTags) {}
        tokens)) = some true := by decide +kernel
  rw [htokens] at hscan
  have hopen := of_decide_eq_true (Option.some.inj hscan)
  exact ⟨d, hd, hgroup, hoption, hiff.2 hopen 5 hgroup, hgroups 5 hgroup, hoptions 6 hoption⟩

end Document

end FormRules
