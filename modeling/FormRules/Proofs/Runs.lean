import Mathlib.Tactic.Tauto

/-!
# What came about in a run and has lasted since

A run folds a step over a list of events. Some events bring a property of the state about, and some
let it last. What the property is at the end of a run hangs on the order of the two.

* `Always`: every event of a run, in the state in which it comes, is of one kind.
* `Since`: an event of one kind, and behind it only events of another.
* `holds_foldl_iff`: a property holds at the end of a run exactly if an event brought it about and
  it has lasted since, or if it held at first and lasted all along.
-/

namespace FormRules

variable {S E : Type}

/-- Every event of a run keeps what it is about. -/
def Always (step : S → E → S) (keeps : S → E → Prop) (s : S) (events : List E) : Prop :=
  ∀ before e after, events = before ++ e :: after → keeps (before.foldl step s) e

/-- An event of a run sets something, and every later one keeps it. -/
def Since (step : S → E → S) (sets keeps : S → E → Prop) (s : S) (events : List E) : Prop :=
  ∃ before e after, events = before ++ e :: after ∧ sets (before.foldl step s) e ∧
    Always step keeps ((before ++ [e]).foldl step s) after

variable {step : S → E → S} {sets keeps : S → E → Prop} {s : S} {e : E} {events : List E}

theorem always_nil : Always step keeps s [] := by
  intro before e after h
  simp at h

theorem always_cons :
    Always step keeps s (e :: events) ↔ keeps s e ∧ Always step keeps (step s e) events := by
  constructor
  · intro h
    refine ⟨h [] e events rfl, ?_⟩
    rintro before e' after rfl
    exact h (e :: before) e' after rfl
  · rintro ⟨he, h⟩ before e' after hevents
    obtain ⟨rfl, hfirst⟩ | ⟨before', rfl, hlater⟩ := List.cons_eq_append_iff.1 hevents
    · cases hfirst
      exact he
    · exact h before' e' after hlater

instance decidableAlways [∀ s e, Decidable (keeps s e)] :
    (s : S) → (events : List E) → Decidable (Always step keeps s events)
  | _, [] => .isTrue always_nil
  | s, e :: events =>
    have := decidableAlways (step s e) events
    decidable_of_iff _ always_cons.symm

theorem not_since_nil : ¬ Since step sets keeps s [] := by
  rintro ⟨before, e, after, h, -⟩
  simp at h

theorem since_cons :
    Since step sets keeps s (e :: events) ↔
      sets s e ∧ Always step keeps (step s e) events ∨ Since step sets keeps (step s e) events := by
  constructor
  · rintro ⟨before, e', after, hevents, hsets, hkeeps⟩
    obtain ⟨rfl, hfirst⟩ | ⟨before', rfl, hlater⟩ := List.cons_eq_append_iff.1 hevents
    · cases hfirst
      exact .inl ⟨hsets, hkeeps⟩
    · exact .inr ⟨before', e', after, hlater, hsets, hkeeps⟩
  · rintro (⟨hsets, hkeeps⟩ | ⟨before, e', after, rfl, hsets, hkeeps⟩)
    · exact ⟨[], e, events, rfl, hsets, hkeeps⟩
    · exact ⟨e :: before, e', after, rfl, hsets, hkeeps⟩

/-- What one event does to a property says what a run does to it. -/
theorem holds_foldl_iff {P : S → Prop}
    (hstep : ∀ s e, P (step s e) ↔ sets s e ∨ P s ∧ keeps s e) (s : S) (events : List E) :
    P (events.foldl step s) ↔
      Since step sets keeps s events ∨ P s ∧ Always step keeps s events := by
  induction events generalizing s with
  | nil => simp [not_since_nil, always_nil]
  | cons e events ih =>
    rw [List.foldl_cons, ih, hstep, since_cons, always_cons]
    -- The first event sets the property, or it held and the event keeps it.
    tauto

end FormRules
