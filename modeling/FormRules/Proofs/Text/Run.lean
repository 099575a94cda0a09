import FormRules.Text.Blank

/-!
# Runs of characters

Texts are read run by run, where a run takes in all characters of a class that follow each other.

* `Stops`: a run ends here.
* `takeWhile_run`, `dropWhile_run`: a run and what stands behind it.
* `trimChars_eq_self`: without blanks there is nothing to trim.
-/

namespace FormRules.Text

/-- What stands behind a run of characters does not go on with it. -/
def Stops (p : Char → Bool) (rest : List Char) : Prop := ∀ c ∈ rest.head?, p c = false

theorem stops_nil (p : Char → Bool) : Stops p [] := by
  intro c hc
  cases hc

theorem stops_cons {p : Char → Bool} {c : Char} (h : p c = false) (s : List Char) :
    Stops p (c :: s) := by
  intro c' hc
  obtain rfl := Option.some.inj hc
  exact h

theorem dropWhile_of_stops {p : Char → Bool} {s : List Char} (h : Stops p s) :
    s.dropWhile p = s := by
  cases s with
  | nil => rfl
  | cons c s => exact List.dropWhile_cons_of_neg (by rw [h c rfl]; exact Bool.false_ne_true)

theorem takeWhile_of_stops {p : Char → Bool} {s : List Char} (h : Stops p s) :
    s.takeWhile p = [] := by
  cases s with
  | nil => rfl
  | cons c s => exact List.takeWhile_cons_of_neg (by rw [h c rfl]; exact Bool.false_ne_true)

theorem takeWhile_run {p : Char → Bool} {run rest : List Char} (hrun : ∀ c ∈ run, p c)
    (hrest : Stops p rest) : (run ++ rest).takeWhile p = run := by
  rw [List.takeWhile_append_of_pos hrun, takeWhile_of_stops hrest, List.append_nil]

theorem dropWhile_run {p : Char → Bool} {run rest : List Char} (hrun : ∀ c ∈ run, p c)
    (hrest : Stops p rest) : (run ++ rest).dropWhile p = rest := by
  rw [List.dropWhile_append_of_pos hrun, dropWhile_of_stops hrest]

/-- A text without blanks is not trimmed. -/
theorem trimChars_eq_self {s : List Char} (h : ∀ c ∈ s, isBlank c = false) : trimChars s = s := by
  have htrim : ∀ t : List Char, (∀ c ∈ t, isBlank c = false) → trimStart t = t := by
    intro t ht
    apply dropWhile_of_stops
    intro c hc
    exact ht c (List.mem_of_mem_head? hc)
  have hreverse : ∀ c ∈ s.reverse, isBlank c = false := fun c hc => h c (List.mem_reverse.1 hc)
  rw [trimChars, htrim s h, htrim s.reverse hreverse, List.reverse_reverse]

end FormRules.Text
