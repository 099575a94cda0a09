import FormRules.Document.Control
import FormRules.Proofs.Document.Runs

/-!
# What disables controls

A control is disabled by its own attribute, or by that of a fieldset above it. So disabling is a
matter of the shape and of the `disabled` attributes of these few nodes.

* `Governs`: the nodes whose attribute can disable a node.
* `isDisabled_of_sameShape`: no node is disabled unless one of them has the attribute.
* `exists_setAttribute_of_isDisabled`: only setting the attribute of one of them disables a node.
-/

namespace FormRules.Document

variable {d d' : Document} {n : Nat}

/-- A node is governed by itself and by the fieldsets above it. -/
def Governs (d : Document) (m n : Nat) : Prop :=
  m = n ∨ m ∈ d.ancestors n ∧ d.isTag "fieldset" m = true

theorem SameShape.firstLegend? (hs : SameShape d d') (n : Nat) :
    d'.firstLegend? n = d.firstLegend? n := by
  have htag : d'.isTag "legend" = d.isTag "legend" := funext (hs.isTag "legend")
  rw [Document.firstLegend?, Document.firstLegend?, hs.children, htag]

/-- In a tree of one shape a node is disabled already if what governs it is. -/
theorem isDisabled_of_sameShape (hs : SameShape d d')
    (h : ∀ m, d.Governs m n → d'.hasAttribute m "disabled" = true →
      d.hasAttribute m "disabled" = true) (hn : d'.isDisabled n = true) :
    d.isDisabled n = true := by
  rw [isDisabled, Bool.or_eq_true, List.any_eq_true] at hn ⊢
  obtain hown | ⟨⟨child, above⟩, hmem, hdisables⟩ := hn
  · exact .inl (h n (.inl rfl) hown)
  · right
    rw [hs.ancestors] at hmem
    refine ⟨(child, above), hmem, ?_⟩
    simp only [disablesFrom, isDisabledFieldset, Bool.and_eq_true, hs.isTag,
      hs.firstLegend?] at hdisables ⊢
    obtain ⟨⟨htag, hattribute⟩, hlegend⟩ := hdisables
    have hgoverns : d.Governs above n := .inr ⟨(List.of_mem_zip hmem).2, htag⟩
    exact ⟨⟨htag, h above hgoverns hattribute⟩, hlegend⟩

/-- Only setting the `disabled` attribute of what governs a node disables it. -/
theorem exists_setAttribute_of_isDisabled {c : Change}
    (hn : (c.perform d).isDisabled n = true) (hbefore : d.isDisabled n = false) :
    ∃ m name value, c = .setAttribute m name value ∧ lowerText name = "disabled" ∧
      d.Governs m n := by
  by_contra hc
  have hkept : ∀ m, d.Governs m n → (c.perform d).hasAttribute m "disabled" = true →
      d.hasAttribute m "disabled" = true := by
    intro m hm hattribute
    rw [hasAttribute] at hattribute ⊢
    by_cases hdisabled : "disabled" ∈ c.attributes
    · obtain ⟨k, v, hassigns⟩ := Change.exists_assigns? hdisabled (by decide) (by decide)
      by_cases hk : d.isElement k = true
      · rw [attribute?_perform_of_assigns? hassigns hk] at hattribute
        simp only [and_true] at hattribute
        split at hattribute
        · rename_i hkm
          subst hkm
          cases c with
          | setAttribute k' name value =>
            rw [Change.assigns?, Option.some.injEq, Prod.mk.injEq, Prod.mk.injEq] at hassigns
            obtain ⟨rfl, hname, -⟩ := hassigns
            exact absurd ⟨_, name, value, rfl, hname, hm⟩ hc
          | removeAttribute k' name =>
            rw [Change.assigns?, Option.some.injEq, Prod.mk.injEq, Prod.mk.injEq] at hassigns
            obtain ⟨-, -, rfl⟩ := hassigns
            cases hattribute
          | _ => cases hassigns
        · exact hattribute
      · rw [perform_of_not_isElement hassigns hk] at hattribute
        exact hattribute
    · rw [attribute?_perform d hdisabled] at hattribute
      exact hattribute
  have hdisabled := isDisabled_of_sameShape (sameShape_perform d c) hkept hn
  rw [hbefore] at hdisabled
  cases hdisabled

/-- What is disabled after a change of values or flags was so before. -/
theorem isDisabled_of_perform {c : Change} (hassigns : c.assigns? = none)
    (hn : (c.perform d).isDisabled n = true) : d.isDisabled n = true := by
  by_contra hbefore
  obtain ⟨m, name, value, rfl, -, -⟩ :=
    exists_setAttribute_of_isDisabled hn (Bool.eq_false_iff.2 hbefore)
  cases hassigns

end FormRules.Document
