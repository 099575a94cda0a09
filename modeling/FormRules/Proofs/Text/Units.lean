import FormRules.Comparison

/-!
# The order of texts

Texts are ordered by their 16-bit units. Characters take one unit or two, but no character has the
units of another one in front of its own, so two texts are ordered by the first characters in which
they differ. The order of characters is that of their code points, with the last range of those that
take one unit moved behind all those that take two.

* `compareUnits_eq_compare`: the order of sequences of units is the one of lists.
* `place`: the place of a character among all characters, `compareUnits_charUnits`.
* `compareText_eq`: texts are ordered by the places of their characters.
* `compareText_of_ne`: they are ordered by the first characters in which they differ.
* `Comparison.text_holds`: the comparison of texts is a total order.
-/

namespace FormRules.Text

/-! ## Units -/

theorem compareUnits_eq_compare (s t : List Nat) : compareUnits s t = compare s t := by
  induction s generalizing t with
  | nil => cases t <;> rfl
  | cons a s ih =>
    cases t with
    | nil => rfl
    | cons b t => rw [compareUnits, List.compare_cons_cons, ih]

/-- What two sequences begin with alike does not matter. -/
theorem compareUnits_append (p s t : List Nat) :
    compareUnits (p ++ s) (p ++ t) = compareUnits s t := by
  induction p with
  | nil => rfl
  | cons a p ih =>
    rw [List.cons_append, List.cons_append, compareUnits, Nat.compare_eq_eq.2 rfl, ih]
    rfl

theorem compareUnits_cons_of_lt {a b : Nat} (h : a < b) (s t : List Nat) :
    compareUnits (a :: s) (b :: t) = .lt := by
  rw [compareUnits, Nat.compare_eq_lt.2 h]
  rfl

/-! ## Characters -/

/-- The place of a character in the order of units. The characters from `U+E000` to `U+FFFF` come
behind all others. -/
def place (c : Char) : Nat :=
  if 0xE000 ≤ c.toNat ∧ c.toNat ≤ 0xFFFF then c.toNat + 0x110000 else c.toNat

theorem toNat_range (c : Char) : c.toNat < 0xD800 ∨ 0xDFFF < c.toNat ∧ c.toNat < 0x110000 :=
  c.valid

theorem place_cases (c : Char) :
    (0xE000 ≤ c.toNat ∧ c.toNat ≤ 0xFFFF) ∧ place c = c.toNat + 0x110000 ∨
      (c.toNat < 0xD800 ∨ 0xFFFF < c.toNat ∧ c.toNat < 0x110000) ∧ place c = c.toNat := by
  have hc := toNat_range c
  unfold place
  split
  · omega
  · omega

theorem place_injective {c d : Char} (h : place c = place d) : c = d := by
  have hc := place_cases c
  have hd := place_cases d
  apply Char.toNat_inj.1
  omega

/-- Characters that are ordered by their places are so by their units, whatever follows them. -/
theorem compareUnits_of_place_lt {c d : Char} (h : place c < place d) (s t : List Nat) :
    compareUnits (charUnits c ++ s) (charUnits d ++ t) = .lt := by
  have hc := place_cases c
  have hd := place_cases d
  unfold charUnits
  dsimp only
  split
  · split
    · exact compareUnits_cons_of_lt (by omega) s t
    · exact compareUnits_cons_of_lt (by omega) s _
  · split
    · exact compareUnits_cons_of_lt (by omega) _ t
    · by_cases hlead : (c.toNat - 0x10000) / 0x400 = (d.toNat - 0x10000) / 0x400
      · rw [hlead]
        exact (compareUnits_append [_] _ _).trans (compareUnits_cons_of_lt (by omega) s t)
      · exact compareUnits_cons_of_lt (by omega) _ _

/-- Two characters are ordered by their places, whatever follows them. -/
theorem compareUnits_charUnits {c d : Char} (h : c ≠ d) (s t : List Nat) :
    compareUnits (charUnits c ++ s) (charUnits d ++ t) = compare (place c) (place d) := by
  rcases Nat.lt_or_gt_of_ne (fun he => h (place_injective he)) with hlt | hgt
  · rw [compareUnits_of_place_lt hlt, Nat.compare_eq_lt.2 hlt]
  · rw [compareUnits_eq_compare, Std.OrientedOrd.eq_swap, ← compareUnits_eq_compare,
      compareUnits_of_place_lt hgt, Nat.compare_eq_gt.2 hgt]
    rfl

/-! ## Texts -/

theorem exists_units_cons (c : Char) (s : List Char) : ∃ a u, units (c :: s) = a :: u := by
  rw [units, List.flatMap_cons]
  unfold charUnits
  dsimp only
  split
  · exact ⟨_, _, rfl⟩
  · exact ⟨_, _, rfl⟩

/-- Sequences of units are ordered as the places of the characters that they are made of. -/
theorem compareUnits_units (s t : List Char) :
    compareUnits (units s) (units t) = compare (s.map place) (t.map place) := by
  induction s generalizing t with
  | nil =>
    cases t with
    | nil => rfl
    | cons d t =>
      obtain ⟨a, u, hu⟩ := exists_units_cons d t
      rw [hu]
      rfl
  | cons c s ih =>
    cases t with
    | nil =>
      obtain ⟨a, u, hu⟩ := exists_units_cons c s
      rw [hu]
      rfl
    | cons d t =>
      rw [List.map_cons, List.map_cons, List.compare_cons_cons]
      by_cases h : c = d
      · subst h
        rw [Nat.compare_eq_eq.2 rfl, ← ih]
        exact compareUnits_append _ _ _
      · have hne : compare (place c) (place d) ≠ .eq := by
          rw [Ne, Nat.compare_eq_eq]
          exact fun he => h (place_injective he)
        refine (compareUnits_charUnits h _ _).trans ?_
        cases hplace : compare (place c) (place d)
        · rfl
        · exact absurd hplace hne
        · rfl

theorem compareText_eq (a b : String) :
    compareText a b = compare (a.toList.map place) (b.toList.map place) :=
  compareUnits_units a.toList b.toList

theorem compareText_eq_eq {a b : String} : compareText a b = .eq ↔ a = b := by
  rw [compareText_eq, Std.LawfulEqCmp.compare_eq_iff_eq,
    List.map_inj_right fun _ _ => place_injective, String.toList_inj]

theorem compareText_swap (a b : String) : compareText b a = (compareText a b).swap := by
  rw [compareText_eq, compareText_eq, Std.OrientedOrd.eq_swap]

theorem compareText_lt_trans {a b c : String} (h : compareText a b = .lt)
    (h' : compareText b c = .lt) : compareText a c = .lt := by
  rw [compareText_eq] at h h' ⊢
  exact Std.TransCmp.lt_trans h h'

/-- The first characters in which two texts differ decide. -/
theorem compareText_of_ne {a b : String} {p s t : List Char} {c d : Char}
    (ha : a.toList = p ++ c :: s) (hb : b.toList = p ++ d :: t) (h : c ≠ d) :
    compareText a b = compare (place c) (place d) := by
  unfold compareText units
  rw [ha, hb, List.flatMap_append, List.flatMap_append, compareUnits_append]
  exact compareUnits_charUnits h _ _

/-- A proper beginning comes first. -/
theorem compareText_of_prefix {a b : String} (h : a.toList <+: b.toList) (hne : a ≠ b) :
    compareText a b = .lt := by
  obtain ⟨t, ht⟩ := h
  cases t with
  | nil =>
    rw [List.append_nil] at ht
    exact absurd (String.toList_inj.1 ht) hne
  | cons d t =>
    obtain ⟨x, u, hu⟩ := exists_units_cons d t
    have hb : units b.toList = units a.toList ++ x :: u := by
      rw [← ht, ← hu]
      exact List.flatMap_append
    have happend := compareUnits_append (units a.toList) [] (x :: u)
    rw [List.append_nil] at happend
    rw [compareText, hb, happend]
    rfl

/-! ## The comparison of texts -/

/-- A character that takes two units, and one of those that take one and come behind it. -/
def IsMoved (c d : Char) : Prop := 0x10000 ≤ c.toNat ∧ 0xE000 ≤ d.toNat ∧ d.toNat ≤ 0xFFFF

instance (c d : Char) : Decidable (IsMoved c d) := inferInstanceAs (Decidable (_ ∧ _))

/-- Places are ordered as code points, but for the characters that are moved. -/
theorem place_lt_iff (c d : Char) :
    place c < place d ↔
      if IsMoved c d ∨ IsMoved d c then d.toNat < c.toNat else c.toNat < d.toNat := by
  have hc := place_cases c
  have hd := place_cases d
  unfold IsMoved
  split
  · omega
  · omega

end FormRules.Text

namespace FormRules.Comparison

open Text

/-- **Comparison of texts.** Texts are equal only to themselves, and less is a strict total order in
which a proper beginning comes first. Two texts that differ are ordered by the code points of the
first characters in which they do, the other way round if one of them is at or above `U+10000` and
the other one is in the range from `U+E000` to `U+FFFF`. -/
theorem text_holds :
    (∀ a b, (text a b).holds .eq = true ↔ a = b) ∧
    (∀ a, ¬ (text a a).holds .lt = true) ∧
    (∀ a b c, (text a b).holds .lt = true → (text b c).holds .lt = true →
      (text a c).holds .lt = true) ∧
    (∀ a b, a ≠ b → (text a b).holds .lt = true ∨ (text b a).holds .lt = true) ∧
    (∀ a b, (text a b).holds .lt = true ↔ (text b a).holds .gt = true) ∧
    (∀ a b, a.toList <+: b.toList → a ≠ b → (text a b).holds .lt = true) ∧
    ∀ a b p c s d t, a.toList = p ++ c :: s → b.toList = p ++ d :: t → c ≠ d →
      ((text a b).holds .lt = true ↔
        if IsMoved c d ∨ IsMoved d c then d.toNat < c.toNat else c.toNat < d.toNat) := by
  have heq : ∀ a b, (text a b).holds .eq = true ↔ compareText a b = .eq := fun a b => beq_iff_eq
  have hlt : ∀ a b, (text a b).holds .lt = true ↔ compareText a b = .lt := fun a b => beq_iff_eq
  have hgt : ∀ a b, (text a b).holds .gt = true ↔ compareText a b = .gt := fun a b => beq_iff_eq
  simp only [heq, hlt, hgt]
  refine ⟨fun a b => compareText_eq_eq, ?_, fun a b c => compareText_lt_trans, ?_, ?_,
    fun a b => compareText_of_prefix, ?_⟩
  · intro a h
    rw [compareText_eq_eq.2 rfl] at h
    cases h
  · intro a b hne
    rw [compareText_swap a b]
    cases h : compareText a b
    · exact .inl rfl
    · exact absurd (compareText_eq_eq.1 h) hne
    · exact .inr rfl
  · intro a b
    rw [compareText_swap a b]
    cases compareText a b <;> decide
  · intro a b p c s d t ha hb hne
    rw [compareText_of_ne ha hb hne, Nat.compare_eq_lt, place_lt_iff]

/-- A face, at `U+1F600`, comes before the last character of one unit. -/
theorem text_holds_face :
    ¬ (text "a😀" "a😀").holds .lt = true ∧ (text "a" "a😀").holds .lt = true ∧
    (text "a😀" "a\uFFFFb").holds .lt = true ∧ (text "a\uFFFFb" "a😀").holds .gt = true ∧
    (text "a" "a\uFFFFb").holds .lt = true := by
  obtain ⟨-, hirrefl, htrans, -, hgt, hprefix, hfirst⟩ := text_holds
  have hbefore : (text "a" "a😀").holds .lt = true := hprefix _ _ (by decide) (by decide)
  have hface : (text "a😀" "a\uFFFFb").holds .lt = true :=
    (hfirst _ _ ['a'] '😀' [] '\uFFFF' ['b'] (by decide) (by decide) (by decide)).2 (by decide)
  exact ⟨hirrefl _, hbefore, hface, (hgt _ _).1 hface, htrans _ _ _ hbefore hface⟩

end FormRules.Comparison
