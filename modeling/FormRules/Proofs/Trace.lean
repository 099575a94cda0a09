import FormRules.Trace
import Mathlib.Data.List.Infix

/-!
# The latest lines

A trace is a list of bounded length that lines are added to, that is turned on and off, and that is
emptied when its lines are taken. Against it stands a list without a bound, of all lines that were
said while the trace was on. What the trace keeps is always the end of this list, and as much of it
as there is room for.

* `TraceEvent`, `Trace.after`: what happens to a trace, and the trace after events.
* `isOn`, `saidWhileOn`: the state of the switch, and the lines that count.
* `Trace.Keeps`: the trace holds the end of a list, as far as there is room.
* `Keeps.add`, `Keeps.after`: one more line, and any events between two takings.
* `keeps_after_ofConfig`: what a trace holds in the end, whatever happened to it.
-/

namespace FormRules

/-! ## Specification -/

/-- What happens to a trace. -/
inductive TraceEvent
  | said (line : TraceLine)
  | switched (on : Bool)
  | taken
  deriving DecidableEq, Repr

/-- Whether a trace is on after some events. -/
def isOn (on : Bool) : List TraceEvent → Bool
  | [] => on
  | .said _ :: events => isOn on events
  | .switched on :: events => isOn on events
  | .taken :: events => isOn on events

/-- The lines that are said while a trace is on, in their order. -/
def saidWhileOn (on : Bool) : List TraceEvent → List TraceLine
  | [] => []
  | .said line :: events => if on then line :: saidWhileOn on events else saidWhileOn on events
  | .switched on :: events => saidWhileOn on events
  | .taken :: events => saidWhileOn on events

/-- Nothing happened yet, or the last that happened was a taking. -/
def EndsTaken (events : List TraceEvent) : Prop :=
  events = [] ∨ ∃ earlier, events = earlier ++ [.taken]

namespace Trace

/-- The trace after an event. -/
def step (t : Trace) : TraceEvent → Trace
  | .said line => t.add line
  | .switched on => t.enable on
  | .taken => t.take.2

/-- The trace after events one after the other. -/
def after (t : Trace) (events : List TraceEvent) : Trace := events.foldl step t

/-- The trace holds the end of a list of lines, and all of it that there is room for. -/
structure Keeps (t : Trace) (said : List TraceLine) : Prop where
  limit_pos : 1 ≤ t.limit
  suffix : t.lines <:+ said
  length_eq : t.lines.length = min said.length t.limit

variable {t : Trace} {said : List TraceLine} {events : List TraceEvent}

theorem after_cons (t : Trace) (event : TraceEvent) (events : List TraceEvent) :
    t.after (event :: events) = (t.step event).after events := rfl

theorem after_append (t : Trace) (s u : List TraceEvent) :
    t.after (s ++ u) = (t.after s).after u := List.foldl_append

/-! ## The switch and the limit -/

theorem enabled_add (line : TraceLine) (t : Trace) : (t.add line).enabled = t.enabled := by
  unfold add
  split_ifs <;> rfl

theorem limit_add (line : TraceLine) (t : Trace) : (t.add line).limit = t.limit := by
  unfold add
  split_ifs <;> rfl

theorem limit_step (t : Trace) (event : TraceEvent) : (t.step event).limit = t.limit := by
  cases event with
  | said line => exact limit_add line t
  | switched on => rfl
  | taken => rfl

theorem limit_after (t : Trace) (events : List TraceEvent) : (t.after events).limit = t.limit := by
  induction events generalizing t with
  | nil => rfl
  | cons event events ih => rw [after_cons, ih, limit_step]

theorem enabled_after (t : Trace) (events : List TraceEvent) :
    (t.after events).enabled = isOn t.enabled events := by
  induction events generalizing t with
  | nil => rfl
  | cons event events ih =>
    rw [after_cons, ih]
    cases event with
    | said line => rw [step, enabled_add, isOn]
    | switched on => rfl
    | taken => rfl

/-! ## The lines -/

theorem add_of_not_enabled (h : t.enabled = false) (line : TraceLine) : t.add line = t := by
  simp [add, h]

/-- One more line, said while the trace is on. -/
theorem Keeps.add (h : t.Keeps said) (hon : t.enabled = true) (line : TraceLine) :
    (t.add line).Keeps (said ++ [line]) := by
  obtain ⟨hlimit, ⟨front, hfront⟩, hlength⟩ := h
  rw [← hfront, List.length_append] at hlength
  by_cases hfull : t.limit ≤ t.lines.length
  · -- The oldest line makes room.
    have hadd : t.add line = { t with lines := t.lines.drop 1 ++ [line] } := by
      simp [Trace.add, hon, hfull]
    have hsplit : front ++ t.lines.take 1 ++ t.lines.drop 1 = said := by
      rw [List.append_assoc, List.take_append_drop, hfront]
    rw [hadd]
    refine ⟨hlimit, ⟨front ++ t.lines.take 1, ?_⟩, ?_⟩
    · show _ ++ (t.lines.drop 1 ++ [line]) = _
      rw [← List.append_assoc, hsplit]
    · simp only [← hfront, List.length_append, List.length_drop, List.length_singleton]
      omega
  · -- There is room still, so no line was let go of.
    have hadd : t.add line = { t with lines := t.lines ++ [line] } := by
      simp [Trace.add, hon, hfull]
    have hnone : front = [] := List.length_eq_zero_iff.1 (by omega)
    rw [hnone, List.nil_append] at hfront
    rw [hadd]
    refine ⟨hlimit, ⟨[], by rw [hfront, List.nil_append]⟩, ?_⟩
    simp only [← hfront, List.length_append, List.length_singleton]
    omega

theorem Keeps.enable (h : t.Keeps said) (on : Bool) : (t.enable on).Keeps said :=
  ⟨h.limit_pos, h.suffix, h.length_eq⟩

/-- Between two takings a trace keeps the end of all lines that are said while it is on. -/
theorem Keeps.after (h : t.Keeps said) (hevents : .taken ∉ events) :
    (t.after events).Keeps (said ++ saidWhileOn t.enabled events) := by
  induction events generalizing t said with
  | nil =>
    rw [saidWhileOn, List.append_nil]
    exact h
  | cons event events ih =>
    obtain ⟨hevent, hrest⟩ := not_or.1 (mt List.mem_cons.2 hevents)
    rw [after_cons]
    cases event with
    | said line =>
      rw [step, saidWhileOn]
      by_cases hon : t.enabled = true
      · have hlater := ih (h.add hon line) hrest
        rw [enabled_add, List.append_assoc] at hlater
        rw [if_pos hon]
        exact hlater
      · have hoff := Bool.eq_false_iff.2 hon
        rw [add_of_not_enabled hoff, if_neg hon]
        exact ih h hrest
    | switched on => exact ih (h.enable on) hrest
    | taken => exact absurd rfl hevent

/-! ## Configured traces -/

theorem lines_after_of_endsTaken {c : TraceConfig} {before : List TraceEvent}
    (h : EndsTaken before) : ((ofConfig c).after before).lines = [] := by
  obtain rfl | ⟨earlier, rfl⟩ := h
  · rfl
  · rw [after_append]
    rfl

/-- Since a trace was taken last, or since it was made, it keeps the end of all lines that were said
while it was on. It has room for as many as were configured, and for one at least. -/
theorem keeps_after_ofConfig (c : TraceConfig) {before since : List TraceEvent}
    (hbefore : EndsTaken before) (hsince : .taken ∉ since) :
    ((ofConfig c).after (before ++ since)).Keeps (saidWhileOn (isOn c.enabled before) since) := by
  have hlines : ((ofConfig c).after before).lines = [] := lines_after_of_endsTaken hbefore
  have hlimit : ((ofConfig c).after before).limit = max c.limit 1 := limit_after _ _
  have hstart : ((ofConfig c).after before).Keeps [] := by
    refine ⟨?_, ?_, ?_⟩
    · rw [hlimit]
      exact le_max_right _ _
    · rw [hlines]
    · rw [hlines]
      rfl
  have hkeeps := hstart.after hsince
  rw [enabled_after] at hkeeps
  rw [after_append]
  exact hkeeps

end Trace

end FormRules
