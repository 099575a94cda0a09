import FormRules.Proofs.Text.Run
import Mathlib.Computability.RegularExpressions
import Mathlib.Tactic.IntervalCases

/-!
# Grammars of texts

The texts that a rule takes are given by regular expressions. A scanner takes a text of a grammar
off the front. It never steps back: what it has taken it does not give up. That loses no text as
long as no part of a grammar goes on with a character with which the next part begins.

* `oneOf`, `word`, `optional`, `many`, `digits`: the grammars of which others are built.
* `alphabet`, `mem_alphabet`: the characters of a grammar.
* `Scans`: a scanner takes the texts of a grammar off the front.
* `Scans.bind`: one scanner behind the other.
* `Scans.eq_nil_iff`: what a scanner takes up to the end is what matches the grammar.
-/

namespace FormRules.Text

/-- A set of texts, as a regular expression. -/
abbrev Grammar := RegularExpression Char

namespace Grammar

/-! ## Grammars -/

/-- One of some characters. -/
def oneOf (chars : String) : Grammar := chars.toList.foldr (fun c r => .char c + r) 0

/-- A text as it stands. -/
def word (text : String) : Grammar := text.toList.foldr (fun c r => .char c * r) 1

/-- A text of a grammar, or nothing. -/
def optional (r : Grammar) : Grammar := 1 + r

/-- One or more texts of a grammar behind each other. -/
def many (r : Grammar) : Grammar := r * r.star

/-- One or more of the ten ASCII digits. -/
def digits : Grammar := many (oneOf "0123456789")

variable {chars : String} {r : Grammar} {s t : List Char} {c : Char}

theorem mem_mul {u : Grammar} :
    s ∈ (r * u).matches' ↔ ∃ a ∈ r.matches', ∃ b ∈ u.matches', a ++ b = s := by
  rw [RegularExpression.matches'_mul, Language.mem_mul]

theorem mem_add {u : Grammar} : s ∈ (r + u).matches' ↔ s ∈ r.matches' ∨ s ∈ u.matches' := by
  rw [RegularExpression.matches'_add, Language.mem_add]

theorem append_mem {u : Grammar} (hs : s ∈ r.matches') (ht : t ∈ u.matches') :
    s ++ t ∈ (r * u).matches' := mem_mul.2 ⟨s, hs, t, ht, rfl⟩

theorem mem_oneOf : s ∈ (oneOf chars).matches' ↔ ∃ c ∈ chars.toList, s = [c] := by
  rw [oneOf]
  induction chars.toList with
  | nil => simp
  | cons c cs ih =>
    rw [List.foldr_cons, mem_add, ih]
    simp only [List.mem_cons, exists_eq_or_imp]
    rfl

theorem mem_word {text : String} : s ∈ (word text).matches' ↔ s = text.toList := by
  rw [word]
  induction text.toList generalizing s with
  | nil => exact Language.mem_one s
  | cons c cs ih =>
    rw [List.foldr_cons, mem_mul]
    constructor
    · rintro ⟨a, ha, b, hb, rfl⟩
      obtain rfl : a = [c] := ha
      obtain rfl := ih.1 hb
      rfl
    · rintro rfl
      exact ⟨[c], rfl, cs, ih.2 rfl, rfl⟩

theorem mem_optional : s ∈ (optional r).matches' ↔ s = [] ∨ s ∈ r.matches' := by
  rw [optional, mem_add]
  rfl

theorem mem_star_oneOf : s ∈ (oneOf chars).star.matches' ↔ ∀ c ∈ s, c ∈ chars.toList := by
  rw [RegularExpression.matches'_star, Language.mem_kstar]
  constructor
  · rintro ⟨pieces, rfl, hpieces⟩ c hc
    obtain ⟨piece, hpiece, hc⟩ := List.mem_flatten.1 hc
    obtain ⟨c', hc', rfl⟩ := mem_oneOf.1 (hpieces piece hpiece)
    obtain rfl := List.mem_singleton.1 hc
    exact hc'
  · intro hs
    refine ⟨s.map ([·]), ?_, ?_⟩
    · rw [← List.flatMap_def, List.flatMap_singleton']
    · intro piece hpiece
      obtain ⟨c, hc, rfl⟩ := List.mem_map.1 hpiece
      exact mem_oneOf.2 ⟨c, hs c hc, rfl⟩

theorem mem_many_oneOf :
    s ∈ (many (oneOf chars)).matches' ↔ s ≠ [] ∧ ∀ c ∈ s, c ∈ chars.toList := by
  rw [many, mem_mul]
  constructor
  · rintro ⟨a, ha, b, hb, rfl⟩
    obtain ⟨c, hc, rfl⟩ := mem_oneOf.1 ha
    exact ⟨by simp, List.forall_mem_cons.2 ⟨hc, mem_star_oneOf.1 hb⟩⟩
  · rintro ⟨hne, hs⟩
    obtain ⟨c, s, rfl⟩ := List.exists_cons_of_ne_nil hne
    obtain ⟨hc, hs⟩ := List.forall_mem_cons.1 hs
    exact ⟨[c], mem_oneOf.2 ⟨c, hc, rfl⟩, s, mem_star_oneOf.2 hs, rfl⟩

theorem isDigit_iff_mem : c.isDigit = true ↔ c ∈ "0123456789".toList := by
  constructor
  · intro h
    simp only [Char.isDigit, Bool.and_eq_true, decide_eq_true_eq] at h
    have hlow : 48 ≤ c.toNat := h.1
    have hhigh : c.toNat ≤ 57 := h.2
    rw [← Char.ofNat_toNat c]
    generalize c.toNat = n at hlow hhigh
    interval_cases n <;> decide
  · have hall : "0123456789".toList.all Char.isDigit = true := by decide
    exact List.all_eq_true.1 hall c

theorem mem_digits : s ∈ digits.matches' ↔ s ≠ [] ∧ ∀ c ∈ s, c.isDigit = true := by
  simp only [digits, mem_many_oneOf, isDigit_iff_mem]

/-- The characters of which the texts of a grammar are made. -/
def alphabet : Grammar → List Char
  | .zero => []
  | .epsilon => []
  | .char c => [c]
  | .plus r u => alphabet r ++ alphabet u
  | .comp r u => alphabet r ++ alphabet u
  | .star r => alphabet r

theorem mem_alphabet (h : s ∈ r.matches') : ∀ c ∈ s, c ∈ alphabet r := by
  induction r generalizing s with
  | zero => cases h
  | epsilon =>
    obtain rfl : s = [] := h
    intro c hc
    cases hc
  | char c =>
    obtain rfl : s = [c] := h
    exact fun _ hc => hc
  | plus r u ihr ihu =>
    intro c hc
    obtain h | h := mem_add.1 h
    · exact List.mem_append_left _ (ihr h c hc)
    · exact List.mem_append_right _ (ihu h c hc)
  | comp r u ihr ihu =>
    intro c hc
    obtain ⟨a, ha, b, hb, rfl⟩ := mem_mul.1 h
    obtain hc | hc := List.mem_append.1 hc
    · exact List.mem_append_left _ (ihr ha c hc)
    · exact List.mem_append_right _ (ihu hb c hc)
  | star r ih =>
    intro c hc
    obtain ⟨pieces, rfl, hpieces⟩ := Language.mem_kstar.1 h
    obtain ⟨piece, hpiece, hc⟩ := List.mem_flatten.1 hc
    exact ih (hpieces piece hpiece) c hc

/-! ## Scanners -/

/-- A scanner takes a text of a grammar off the front, if there is one. Behind the text there must
be no character that goes on with it. -/
structure Scans (scan : List Char → Option (List Char)) (r : Grammar) (goesOn : Char → Bool) :
    Prop where
  sound : ∀ {s rest}, scan s = some rest → ∃ t ∈ r.matches', t ++ rest = s
  complete : ∀ {t rest}, t ∈ r.matches' → Stops goesOn rest → scan (t ++ rest) = some rest

variable {scan scan' : List Char → Option (List Char)} {u : Grammar} {goesOn goesOn' : Char → Bool}

theorem Scans.eq_nil_iff (h : Scans scan r goesOn) : scan s = some [] ↔ s ∈ r.matches' := by
  constructor
  · intro hs
    obtain ⟨t, ht, rfl⟩ := h.sound hs
    rwa [List.append_nil]
  · intro hs
    have hscan := h.complete hs (stops_nil goesOn)
    rwa [List.append_nil] at hscan

/-- **One scanner behind the other.** The second one finds all that is left for it, if none of its
texts begins with a character that goes on with what the first one takes. -/
theorem Scans.bind (h : Scans scan r goesOn) (h' : Scans scan' u goesOn')
    (hstops : ∀ t ∈ u.matches', Stops goesOn t) :
    Scans (fun s => scan s >>= scan') (r * u) fun c => goesOn c || goesOn' c where
  sound := by
    intro s rest hs
    obtain ⟨middle, hfirst, hsecond⟩ := Option.bind_eq_some_iff.1 hs
    obtain ⟨t, ht, rfl⟩ := h.sound hfirst
    obtain ⟨t', ht', rfl⟩ := h'.sound hsecond
    exact ⟨t ++ t', append_mem ht ht', List.append_assoc ..⟩
  complete := by
    intro t rest ht hrest
    obtain ⟨a, ha, b, hb, rfl⟩ := mem_mul.1 ht
    have hfirst : Stops goesOn (b ++ rest) := by
      cases b with
      | nil => exact fun c hc => (Bool.or_eq_false_iff.1 (hrest c hc)).1
      | cons c b => exact hstops (c :: b) hb
    have hsecond : Stops goesOn' rest := fun c hc => (Bool.or_eq_false_iff.1 (hrest c hc)).2
    rw [List.append_assoc, h.complete ha hfirst]
    exact h'.complete hb hsecond

/-- A part that one of some characters opens begins with one of them. -/
theorem stops_of_mem_optional {p : Char → Bool} (hp : chars.toList.any p = false)
    (h : s ∈ (optional (oneOf chars * r)).matches') : Stops p s := by
  obtain rfl | h := mem_optional.1 h
  · exact stops_nil p
  · obtain ⟨a, ha, b, -, rfl⟩ := mem_mul.1 h
    obtain ⟨c, hc, rfl⟩ := mem_oneOf.1 ha
    exact stops_cons (Bool.eq_false_iff.2 (List.any_eq_false.1 hp c hc)) b

theorem stops_of_mem_digits {p : Char → Bool} (hp : ∀ c, p c = true → c.isDigit = false)
    (h : s ∈ digits.matches') : Stops p s := by
  obtain ⟨-, hs⟩ := mem_digits.1 h
  intro c hc
  have hdigit : c.isDigit = true := hs c (List.mem_of_mem_head? hc)
  by_contra hpc
  rw [hp c (by simpa using hpc)] at hdigit
  cases hdigit

end Grammar

end FormRules.Text
