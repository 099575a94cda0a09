import FormRules.Text.Blank

/-!
# Pieces and words

A text comes apart at each of its separators and nowhere else. Between blanks the empty pieces do
not count, so it makes no difference how many blanks stand side by side.

* `cut_eq_splitOnP`: cutting is the splitting of lists.
* `cut_flatMap`: the pieces of a text are those that were put together.
* `of_mem_cut`: a piece is made of characters of the text, and holds no separator.
* `words_append`: a text comes apart at each of its blanks.
* `words_blanks_append`, `words_append_blanks`, `words_append_blanks_append`: runs of blanks.
* `of_mem_words`: a word is not empty and holds no blank.
* `IsWord`, `mem_words_iff`: the words are what stands between blanks.
-/

namespace FormRules.Text

/-! ## Pieces -/

variable {isSeparator : Char → Bool}

/-- Cutting is the splitting of lists. -/
theorem cut_eq_splitOnP (isSeparator : Char → Bool) (s : List Char) :
    cut isSeparator s = s.splitOnP isSeparator := by
  induction s with
  | nil => rfl
  | cons c s ih =>
    obtain ⟨piece, pieces, hsplit⟩ :=
      List.exists_cons_of_ne_nil (List.splitOnP_ne_nil isSeparator s)
    rw [cut, List.splitOnP_cons_eq_if_modifyHead, ih, hsplit]
    rfl

/-- Pieces that are put together with a separator in front of each but the first come apart
again. -/
theorem cut_flatMap {c : Char} (hc : isSeparator c = true) {first : List Char}
    (hfirst : ∀ d ∈ first, isSeparator d = false) {pieces : List (List Char)}
    (hpieces : ∀ piece ∈ pieces, ∀ d ∈ piece, isSeparator d = false) :
    cut isSeparator (first ++ pieces.flatMap (c :: ·)) = first :: pieces := by
  rw [cut_eq_splitOnP]
  induction pieces generalizing first with
  | nil => rw [List.flatMap_nil, List.append_nil, List.splitOnP_eq_singleton hfirst]
  | cons piece pieces ih =>
    obtain ⟨hpiece, hpieces⟩ := List.forall_mem_cons.1 hpieces
    rw [List.flatMap_cons, List.cons_append,
      List.splitOnP_append_cons_of_forall_mem hfirst c hc, ih hpiece hpieces]

/-- A piece is made of characters of the text that are no separators. -/
theorem of_mem_cut {s piece : List Char} (h : piece ∈ cut isSeparator s) :
    ∀ c ∈ piece, c ∈ s ∧ isSeparator c = false := by
  induction s generalizing piece with
  | nil =>
    obtain rfl := List.mem_singleton.1 h
    exact fun c hc => absurd hc List.not_mem_nil
  | cons d s ih =>
    have hlater : ∀ {piece}, piece ∈ cut isSeparator s →
        ∀ c ∈ piece, c ∈ d :: s ∧ isSeparator c = false :=
      fun hpiece c hc => (ih hpiece c hc).imp_left (List.mem_cons_of_mem d)
    rw [cut] at h
    split at h
    · rcases List.mem_cons.1 h with rfl | h
      · exact fun c hc => absurd hc List.not_mem_nil
      · exact hlater h
    · rename_i hd
      -- The character goes to the first of the pieces behind it.
      have hne : cut isSeparator s ≠ [] := by
        rw [cut_eq_splitOnP]
        exact List.splitOnP_ne_nil isSeparator s
      obtain ⟨first, pieces, hcut⟩ := List.exists_cons_of_ne_nil hne
      simp only [hcut] at h
      rw [hcut] at hlater
      rcases List.mem_cons.1 h with rfl | h
      · rw [List.forall_mem_cons]
        exact ⟨⟨List.mem_cons_self, Bool.eq_false_iff.2 hd⟩, hlater List.mem_cons_self⟩
      · exact hlater (List.mem_cons_of_mem first h)

/-! ## Words -/

/-- A text comes apart at each of its blanks. -/
theorem words_append {c : Char} (hc : isBlank c = true) (s t : List Char) :
    words (s ++ c :: t) = words s ++ words t := by
  simp only [words, cut_eq_splitOnP]
  rw [List.splitOnP_append_cons s t hc, List.filter_append]

theorem words_eq_singleton {s : List Char} (hne : s ≠ []) (h : ∀ c ∈ s, isBlank c = false) :
    words s = [s] := by
  rw [words, cut_eq_splitOnP, List.splitOnP_eq_singleton h,
    List.filter_cons_of_pos (by simpa using hne), List.filter_nil]

variable {blanks : List Char}

theorem words_blanks_append (h : ∀ c ∈ blanks, isBlank c = true) (s : List Char) :
    words (blanks ++ s) = words s := by
  induction blanks with
  | nil => rfl
  | cons c blanks ih =>
    obtain ⟨hc, hblanks⟩ := List.forall_mem_cons.1 h
    have hfront : words ([] ++ c :: (blanks ++ s)) = words (blanks ++ s) := words_append hc [] _
    exact hfront.trans (ih hblanks)

/-- A text comes apart at a run of blanks as it does at one blank. -/
theorem words_append_blanks_append (hne : blanks ≠ []) (h : ∀ c ∈ blanks, isBlank c = true)
    (s t : List Char) : words (s ++ (blanks ++ t)) = words s ++ words t := by
  cases blanks with
  | nil => exact absurd rfl hne
  | cons c blanks =>
    obtain ⟨hc, hblanks⟩ := List.forall_mem_cons.1 h
    rw [List.cons_append, words_append hc, words_blanks_append hblanks]

theorem words_append_blanks (h : ∀ c ∈ blanks, isBlank c = true) (s : List Char) :
    words (s ++ blanks) = words s := by
  by_cases hne : blanks = []
  · rw [hne, List.append_nil]
  · have hbehind := words_append_blanks_append hne h s []
    have hnil : words [] = [] := rfl
    rwa [List.append_nil, hnil, List.append_nil] at hbehind

/-- A word is not empty and holds no blank. -/
theorem of_mem_words {s word : List Char} (h : word ∈ words s) :
    word ≠ [] ∧ ∀ c ∈ word, isBlank c = false := by
  rw [words, List.mem_filter, decide_eq_true_eq] at h
  exact ⟨h.2, fun c hc => (of_mem_cut h.1 c hc).2⟩

/-! ## What stands between blanks -/

/-- A text without blanks that is not empty and stands in another between blanks or its ends. -/
structure IsWord (word text : List Char) : Prop where
  ne_nil : word ≠ []
  no_blank : ∀ c ∈ word, isBlank c = false
  stands : ∃ before after, text = before ++ word ++ after ∧
    (∀ c ∈ before.getLast?, isBlank c = true) ∧ ∀ c ∈ after.head?, isBlank c = true

variable {word : List Char}

/-- A word behind a blank is a word whatever is in front of the blank. -/
theorem IsWord.behind {s t : List Char} (h : IsWord word t) {c : Char} (hc : isBlank c = true) :
    IsWord word (s ++ c :: t) := by
  obtain ⟨before, after, rfl, hbefore, hafter⟩ := h.stands
  refine ⟨h.ne_nil, h.no_blank, s ++ c :: before, after, by simp, ?_, hafter⟩
  intro d hd
  rw [List.getLast?_append, List.getLast?_cons, Option.some_or, Option.mem_some_iff] at hd
  cases hlast : before.getLast? with
  | none =>
    rw [hlast, Option.getD_none] at hd
    rwa [← hd]
  | some e =>
    rw [hlast, Option.getD_some] at hd
    exact hbefore d (hd ▸ hlast)

theorem eq_of_mem_words {s : List Char} (hs : ∀ c ∈ s, isBlank c = false) (h : word ∈ words s) :
    word = s ∧ s ≠ [] := by
  by_cases hne : s = []
  · subst hne
    cases h
  · rw [words_eq_singleton hne hs] at h
    exact ⟨List.mem_singleton.1 h, hne⟩

/-- The pass over a text, with the characters `s` since the last blank. -/
theorem isWord_of_mem_words_append {s t : List Char} (hs : ∀ c ∈ s, isBlank c = false)
    (h : word ∈ words (s ++ t)) : IsWord word (s ++ t) := by
  induction t generalizing s with
  | nil =>
    rw [List.append_nil] at h ⊢
    obtain ⟨rfl, hne⟩ := eq_of_mem_words hs h
    exact ⟨hne, hs, [], [], by simp, by simp, by simp⟩
  | cons c t ih =>
    by_cases hc : isBlank c = true
    · rw [words_append hc, List.mem_append] at h
      rcases h with h | h
      · obtain ⟨rfl, hne⟩ := eq_of_mem_words hs h
        exact ⟨hne, hs, [], c :: t, by simp, by simp, by simpa using hc⟩
      · have hrest : IsWord word ([] ++ t) := ih (by simp) h
        exact hrest.behind hc
    · rw [List.append_cons] at h ⊢
      refine ih ?_ h
      intro d hd
      rcases List.mem_append.1 hd with hd | hd
      · exact hs d hd
      · rw [List.mem_singleton.1 hd]
        exact Bool.eq_false_iff.2 hc

/-- What stands behind a text that ends in a blank keeps its words. -/
theorem words_subset_append {before : List Char} (h : ∀ c ∈ before.getLast?, isBlank c = true)
    (t : List Char) : words t ⊆ words (before ++ t) := by
  rcases List.eq_nil_or_concat before with rfl | ⟨s, c, rfl⟩
  · exact List.Subset.refl _
  · rw [List.concat_eq_append] at h ⊢
    have hc : isBlank c = true := h c (by simp)
    rw [List.append_assoc, List.singleton_append, words_append hc]
    exact List.subset_append_right _ _

/-- What stands in front of a text that begins with a blank keeps its words. -/
theorem words_subset_append_left {after : List Char} (h : ∀ c ∈ after.head?, isBlank c = true)
    (s : List Char) : words s ⊆ words (s ++ after) := by
  cases after with
  | nil =>
    rw [List.append_nil]
    exact List.Subset.refl _
  | cons c t =>
    rw [words_append (h c rfl)]
    exact List.subset_append_left _ _

/-- The words of a text are what stands between its blanks. -/
theorem mem_words_iff {text : List Char} : word ∈ words text ↔ IsWord word text := by
  constructor
  · intro h
    exact isWord_of_mem_words_append (s := []) (by simp) h
  · intro h
    obtain ⟨before, after, rfl, hbefore, hafter⟩ := h.stands
    have hword : word ∈ words word := by
      rw [words_eq_singleton h.ne_nil h.no_blank]
      exact List.mem_singleton_self word
    have hfront : word ∈ words (before ++ word) := words_subset_append hbefore word hword
    exact words_subset_append_left hafter _ hfront

end FormRules.Text
