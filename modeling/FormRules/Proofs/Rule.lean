import FormRules.Proofs.Text.Words
import FormRules.Rule
import Mathlib.Data.List.Basic

/-!
# Reading rules back

A rule text is read as the rules that it was written from, however many blanks stand around and
between them. Not every text was written from rules, for a word without a name is dropped; but what
is read from a text can be written, and is read back as it was.

* `Renderable.ofWord?_render`, `renderable_of_ofWord?`: one rule and its word.
* `layOut`, `Spaced`: rules in their written form, with blanks around and between them.
* `parse_layOut`, `renderable_of_mem_parse`, `parse_append`: a text of rules.
* `parse_inverse_layOut`: parsing is the inverse of writing.
-/

namespace FormRules.Rule

open Text

instance (s : String) : Decidable (IsPart s) := List.decidableBAll _ s.toList

variable {r : Rule}

/-! ## One rule -/

theorem toList_render (r : Rule) :
    r.render.toList = r.operator.toList ++ (r.args.map String.toList).flatMap (':' :: ·) := by
  have hfold : ∀ (args : List String) (s : String),
      (args.foldl (fun s a => s ++ ":" ++ a) s).toList =
        s.toList ++ (args.map String.toList).flatMap (':' :: ·) := by
    intro args
    induction args with
    | nil => simp
    | cons a args ih => simp [ih]
  exact hfold r.args r.operator

namespace Renderable

/-- The word of a rule is read as that rule; an empty argument keeps its place. -/
theorem ofWord?_render (h : r.Renderable) : ofWord? r.render.toList = some r := by
  have hargs : ∀ piece ∈ r.args.map String.toList, ∀ c ∈ piece, isColon c = false := by
    intro piece hpiece c hc
    obtain ⟨a, ha, rfl⟩ := List.mem_map.1 hpiece
    exact (h.args_part a ha c hc).1
  have hcut : cut isColon r.render.toList = r.operator.toList :: r.args.map String.toList := by
    rw [toList_render]
    exact cut_flatMap (by decide) (fun c hc => (h.operator_part c hc).1) hargs
  have hname : r.operator.toList ≠ [] := fun he => h.operator_ne (String.toList_inj.1 he)
  simp only [ofWord?, hcut, hname, if_false, String.ofList_toList, List.map_map,
    Function.comp_def, List.map_id']

/-- The written form of a rule is one word. -/
theorem words_render (h : r.Renderable) : words r.render.toList = [r.render.toList] := by
  apply words_eq_singleton
  · intro he
    rw [toList_render, List.append_eq_nil_iff] at he
    exact h.operator_ne (String.toList_inj.1 he.1)
  · intro c hc
    rw [toList_render, List.mem_append, List.mem_flatMap] at hc
    rcases hc with hc | ⟨piece, hpiece, hc⟩
    · exact (h.operator_part c hc).2
    · obtain ⟨a, ha, rfl⟩ := List.mem_map.1 hpiece
      rcases List.mem_cons.1 hc with rfl | hc
      · decide
      · exact (h.args_part a ha c hc).2

end Renderable

/-- The rule of a word can be written. -/
theorem renderable_of_ofWord? {word : List Char} (hword : ∀ c ∈ word, isBlank c = false)
    (h : ofWord? word = some r) : r.Renderable := by
  have hpart : ∀ piece ∈ cut isColon word, IsPart (String.ofList piece) := by
    intro piece hpiece c hc
    rw [String.toList_ofList] at hc
    obtain ⟨hmem, hcolon⟩ := of_mem_cut hpiece c hc
    exact ⟨hcolon, hword c hmem⟩
  unfold ofWord? at h
  split at h
  · cases h
  · rename_i operator args hcut
    rw [hcut, List.forall_mem_cons] at hpart
    split at h
    · cases h
    · rename_i hname
      cases h
      refine ⟨fun he => hname (String.ofList_eq_empty_iff.1 he), hpart.1, ?_⟩
      intro a ha
      obtain ⟨piece, hpiece, rfl⟩ := List.mem_map.1 ha
      exact hpart.2 piece hpiece

/-! ## A text of rules -/

/-- Rules in their written form, each in front of a text of its own, behind a first text. -/
def layOut (front : String) (pieces : List (Rule × String)) : String :=
  pieces.foldl (fun s (r, behind) => s ++ r.render ++ behind) front

/-- The texts around and between rules are blanks, at least one between two rules. -/
structure Spaced (front : String) (pieces : List (Rule × String)) : Prop where
  front : front.toList.all isBlank = true
  behind : ∀ p ∈ pieces, p.2.toList.all isBlank = true
  between : ∀ p ∈ pieces.dropLast, p.2 ≠ ""

/-- The written form of several rules, with a space behind each. -/
def renderAll (rules : List Rule) : String := layOut "" (rules.map fun r => (r, " "))

theorem toList_layOut (front : String) (pieces : List (Rule × String)) :
    (layOut front pieces).toList =
      front.toList ++ pieces.flatMap fun (r, behind) => r.render.toList ++ behind.toList := by
  unfold layOut
  induction pieces generalizing front with
  | nil => simp
  | cons p pieces ih => simp [ih]

theorem spaced_renderAll (rules : List Rule) : Spaced "" (rules.map fun r => (r, " ")) where
  front := rfl
  behind := by
    intro p hp
    obtain ⟨r, -, rfl⟩ := List.mem_map.1 hp
    exact (by decide : " ".toList.all isBlank = true)
  between := by
    intro p hp
    obtain ⟨r, -, rfl⟩ := List.mem_map.1 (List.dropLast_subset _ hp)
    exact (by decide : " " ≠ "")

/-- The words of a text that was written from rules are the words of the rules. -/
theorem words_layOut {front : String} {pieces : List (Rule × String)} (h : Spaced front pieces)
    (hrules : ∀ p ∈ pieces, p.1.Renderable) :
    words (layOut front pieces).toList = pieces.map fun p => p.1.render.toList := by
  rw [toList_layOut, words_blanks_append (List.all_eq_true.1 h.front)]
  have hbehind := h.behind
  have hbetween := h.between
  clear h
  induction pieces with
  | nil => rfl
  | cons p pieces ih =>
    obtain ⟨hp, hrules⟩ := List.forall_mem_cons.1 hrules
    obtain ⟨hp', hbehind⟩ := List.forall_mem_cons.1 hbehind
    have hblank := List.all_eq_true.1 hp'
    cases pieces with
    | nil =>
      rw [List.flatMap_singleton, words_append_blanks hblank, hp.words_render]
      rfl
    | cons q pieces =>
      rw [List.dropLast_cons_cons, List.forall_mem_cons] at hbetween
      have hne : p.2.toList ≠ [] := fun he => hbetween.1 (String.toList_inj.1 he)
      rw [List.flatMap_cons, List.append_assoc, words_append_blanks_append hne hblank,
        hp.words_render, ih hrules hbehind hbetween.2]
      rfl

theorem parse_layOut {front : String} {pieces : List (Rule × String)} (h : Spaced front pieces)
    (hrules : ∀ p ∈ pieces, p.1.Renderable) :
    parse (layOut front pieces) = pieces.map Prod.fst := by
  rw [parse, words_layOut h hrules, List.filterMap_map]
  calc pieces.filterMap (ofWord? ∘ fun p => p.1.render.toList)
      = pieces.filterMap (some ∘ Prod.fst) :=
        List.filterMap_congr fun p hp => (hrules p hp).ofWord?_render
    _ = pieces.map Prod.fst := by rw [List.filterMap_eq_map]

/-- What is read from a text can be written. -/
theorem renderable_of_mem_parse {s : String} (h : r ∈ parse s) : r.Renderable := by
  obtain ⟨word, hword, hr⟩ := List.mem_filterMap.1 h
  exact renderable_of_ofWord? (of_mem_words hword).2 hr

/-- A rule text comes apart at each of its blanks. -/
theorem parse_append {w : Char} (hw : isBlank w = true) (s t : String) :
    parse (s ++ w.toString ++ t) = parse s ++ parse t := by
  have hchars : (s ++ w.toString ++ t).toList = s.toList ++ w :: t.toList := by simp
  rw [parse, hchars, words_append hw, List.filterMap_append]
  rfl

/-- **Rule texts.** Parsing is the inverse of writing: rules that can be written are read from every
text that holds them with blanks around and between them. What is read from any text can be written,
and is read back as it was. A text comes apart at each of its blanks. -/
theorem parse_inverse_layOut :
    (∀ front pieces, Spaced front pieces → (∀ p ∈ pieces, p.1.Renderable) →
      parse (layOut front pieces) = pieces.map Prod.fst) ∧
    (∀ s, (∀ r ∈ parse s, r.Renderable) ∧ parse (renderAll (parse s)) = parse s ∧
      ∀ front pieces, Spaced front pieces → pieces.map Prod.fst = parse s →
        parse (layOut front pieces) = parse s) ∧
    ∀ s t w, isBlank w = true → parse (s ++ w.toString ++ t) = parse s ++ parse t := by
  have hback : ∀ s front pieces, Spaced front pieces → pieces.map Prod.fst = parse s →
      parse (layOut front pieces) = parse s := by
    intro s front pieces h hpieces
    rw [← hpieces]
    apply parse_layOut h
    intro p hp
    apply renderable_of_mem_parse (s := s)
    rw [← hpieces]
    exact List.mem_map_of_mem hp
  refine ⟨fun _ _ h hrules => parse_layOut h hrules, ?_, fun s t _ hw => parse_append hw s t⟩
  intro s
  refine ⟨fun r hr => renderable_of_mem_parse hr, ?_, hback s⟩
  apply hback s _ _ (spaced_renderAll (parse s))
  rw [List.map_map]
  exact List.map_id _

/-- A rule with empty arguments at both ends, and one without arguments, between several kinds of
blanks. -/
def spreadRules : List (Rule × String) :=
  [(⟨"regexp", ["", "^a$", ""]⟩, "\u3000 \n"), (⟨"required", []⟩, "")]

/-- The two rules are read from their text, and what is read from it is read from the text that they
make. -/
theorem parse_spreadRules :
    Spaced "\t" spreadRules ∧ (∀ p ∈ spreadRules, p.1.Renderable) ∧
    layOut "\t" spreadRules = "\tregexp::^a$:\u3000 \nrequired" ∧
    parse (layOut "\t" spreadRules) = [⟨"regexp", ["", "^a$", ""]⟩, ⟨"required", []⟩] ∧
    parse ("eq::" ++ '\u2003'.toString ++ ":x ::") = parse "eq::" ++ parse ":x ::" := by
  have hspaced : Spaced "\t" spreadRules := ⟨by decide, by decide, by decide⟩
  have hrules : ∀ p ∈ spreadRules, p.1.Renderable := by
    simp only [spreadRules, List.forall_mem_cons]
    refine ⟨⟨by decide, by decide, by decide⟩, ⟨by decide, by decide, by decide⟩, ?_⟩
    exact fun p hp => absurd hp List.not_mem_nil
  exact ⟨hspaced, hrules, by decide, parse_inverse_layOut.1 _ _ hspaced hrules,
    parse_inverse_layOut.2.2 _ _ '\u2003' (by decide)⟩

end FormRules.Rule
