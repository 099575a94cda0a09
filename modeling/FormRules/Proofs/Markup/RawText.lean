import FormRules.Proofs.Markup.Reading
import Mathlib.Data.List.TakeWhile

/-!
# The end of raw text

The content of a raw-text element is all up to the first end tag whose name is the name of the
element, in any case, with no letter or digit behind it. The reader of end tags takes a longer name
when a hyphen or an underscore follows. So a raw text ends at an end tag that is read with the name
of the element, unless one of these marks stands right behind the name: then it ends at the end tag
of another element.

* `endName`, `readEndTag_eq`, `endName_eq_append_iff`: what the reader of end tags reads.
* `endsRawText_iff`: where raw text ends, in terms of the name that is read there.
* `takeRawText?_eq_some_iff`: the content is all in front of the first place where it ends.
* `takeRawText?_endTag`: the end tag behind a content, and those in it.
-/

namespace FormRules.Markup

/-! ## Letter case -/

theorem isAlphanum_of_isUpper {c : Char} (h : c.isUpper = true) : c.isAlphanum = true :=
  Bool.or_eq_true_iff.2 (.inl (Bool.or_eq_true_iff.2 (.inl h)))

theorem isAlphanum_of_isLower {c : Char} (h : c.isLower = true) : c.isAlphanum = true :=
  Bool.or_eq_true_iff.2 (.inl (Bool.or_eq_true_iff.2 (.inr h)))

theorem toLower_of_not_isUpper {c : Char} (h : ¬ c.isUpper = true) : c.toLower = c :=
  dif_neg fun hcode => h (decide_eq_true hcode)

theorem isLower_toLower {c : Char} (h : c.isUpper = true) : c.toLower.isLower = true := by
  have hcode : c.val ≥ 'A'.val ∧ c.val ≤ 'Z'.val := of_decide_eq_true h
  have hlower : c.toLower.val = c.val + 32 := congrArg Char.val (dif_pos hcode)
  have hge : 65 ≤ c.val.toNat := UInt32.le_iff_toNat_le.1 hcode.1
  have hle : c.val.toNat ≤ 90 := UInt32.le_iff_toNat_le.1 hcode.2
  have hval : c.toLower.val.toNat = c.val.toNat + 32 := by
    have hlt : c.val.toNat + 32 < 4294967296 := by omega
    rw [hlower, UInt32.toNat_add]
    exact Nat.mod_eq_of_lt hlt
  have hge' : 97 ≤ c.toLower.val.toNat := by omega
  have hle' : c.toLower.val.toNat ≤ 122 := by omega
  exact Bool.and_eq_true_iff.2 ⟨decide_eq_true (UInt32.le_iff_toNat_le.2 hge'),
    decide_eq_true (UInt32.le_iff_toNat_le.2 hle')⟩

theorem isAlphanum_toLower (c : Char) : c.toLower.isAlphanum = c.isAlphanum := by
  by_cases h : c.isUpper = true
  · rw [isAlphanum_of_isUpper h, isAlphanum_of_isLower (isLower_toLower h)]
  · rw [toLower_of_not_isUpper h]

theorem toLower_of_not_isAlphanum {c : Char} (h : c.isAlphanum = false) : c.toLower = c :=
  toLower_of_not_isUpper fun hupper => Bool.eq_false_iff.1 h (isAlphanum_of_isUpper hupper)

/-- A hyphen or an underscore, the characters of the names of tags that are no letters or digits. -/
def IsMark (c : Char) : Prop := c = '-' ∨ c = '_'

instance (c : Char) : Decidable (IsMark c) := inferInstanceAs (Decidable (_ ∨ _))

theorem isTagChar_iff {c : Char} : isTagChar c = true ↔ c.isAlphanum = true ∨ IsMark c := by
  simp only [isTagChar, Bool.or_eq_true, beq_iff_eq, IsMark, or_assoc]

theorem IsMark.isAlphanum {c : Char} (h : IsMark c) : c.isAlphanum = false := by
  rcases h with rfl | rfl <;> decide

theorem isMark_toLower {c : Char} : IsMark c.toLower ↔ IsMark c := by
  constructor
  · intro h
    have hc : c.isAlphanum = false := by
      rw [← isAlphanum_toLower]
      exact h.isAlphanum
    rwa [toLower_of_not_isAlphanum hc] at h
  · intro h
    rwa [toLower_of_not_isAlphanum h.isAlphanum]

/-! ## End tags -/

/-- The name that an end tag is read with. -/
def endName (s : List Char) : List Char := lower ((skipSpace s).takeWhile isTagChar)

theorem dropWhile_dropWhile_ne {p : Char → Bool} {mark : Char} (h : p mark = false)
    (s : List Char) : (s.dropWhile p).dropWhile (· ≠ mark) = s.dropWhile (· ≠ mark) := by
  induction s with
  | nil => rfl
  | cons c s ih =>
    by_cases hc : p c = true
    · have hne : c ≠ mark := by
        rintro rfl
        rw [h] at hc
        cases hc
      rw [List.dropWhile_cons_of_pos hc, ih]
      exact (List.dropWhile_cons_of_pos (p := (· ≠ mark)) (decide_eq_true hne)).symm
    · rw [List.dropWhile_cons_of_neg hc]

/-- An end tag is read up to the first angle bracket that closes it, if there is one. -/
theorem readEndTag_eq (s : List Char) :
    readEndTag s =
      if '>' ∈ s then .ok (String.ofList (endName s), (s.dropWhile (· ≠ '>')).tail)
      else .error (.unclosedEndTag (String.ofList (endName s))) := by
  have hend : ((skipSpace s).dropWhile isTagChar).dropWhile (· ≠ '>') = s.dropWhile (· ≠ '>') := by
    rw [dropWhile_dropWhile_ne (by decide), skipSpace, dropWhile_dropWhile_ne (by decide)]
  have hmem : s.dropWhile (· ≠ '>') = [] ↔ '>' ∉ s := by
    rw [List.dropWhile_eq_nil_iff]
    exact ⟨fun h hgt => absurd (h '>' hgt) (by decide), forall_ne_of_not_mem⟩
  simp only [readEndTag, hend, endName]
  cases hrest : s.dropWhile (· ≠ '>') with
  | nil => rw [if_neg (hmem.1 hrest)]
  | cons c rest =>
    have hsome : '>' ∈ s := by
      by_contra hnone
      rw [hmem.2 hnone] at hrest
      cases hrest
    rw [if_pos hsome]
    rfl

theorem eq_endName_of_readEndTag {s after : List Char} {name : String}
    (h : readEndTag s = .ok (name, after)) : name = String.ofList (endName s) := by
  rw [readEndTag_eq] at h
  split at h
  · cases h
    rfl
  · cases h

/-- An end tag is read with a name that goes on behind another one: that one comes first, in either
case, and the rest is read behind it. -/
theorem endName_eq_append_iff {name : List Char} (hname : ∀ c ∈ name, c.isAlphanum = true)
    (tail s : List Char) :
    endName s = name ++ tail ↔
      lower ((skipSpace s).take name.length) = name ∧
        lower (((skipSpace s).drop name.length).takeWhile isTagChar) = tail := by
  rw [endName]
  generalize skipSpace s = s
  constructor
  · intro h
    obtain ⟨front, back, hrun, hfront, hback⟩ := List.map_eq_append_iff.1 h
    have hlength : name.length = front.length := by rw [← hfront, List.length_map]
    have hsplit : s = front ++ (back ++ s.dropWhile isTagChar) := by
      rw [← List.append_assoc, ← hrun, List.takeWhile_append_dropWhile]
    have hchars : ∀ c ∈ back, isTagChar c = true := fun c hc =>
      List.mem_takeWhile_imp (hrun ▸ List.mem_append_right front hc)
    have hstop : (s.dropWhile isTagChar).takeWhile isTagChar = [] :=
      List.takeWhile_eq_nil_iff.2 (List.dropWhile_get_zero_not isTagChar s)
    generalize s.dropWhile isTagChar = rest at hsplit hstop
    subst hsplit
    rw [hlength, List.take_left, List.drop_left, List.takeWhile_append_of_pos hchars, hstop,
      List.append_nil]
    exact ⟨hfront, hback⟩
  · rintro ⟨hfront, hback⟩
    -- The characters of the name are letters and digits in either case, so the reader takes them.
    have hrun : ∀ c ∈ s.take name.length, isTagChar c = true := by
      intro c hc
      have hlower : c.toLower ∈ name := hfront ▸ List.mem_map_of_mem hc
      rw [isTagChar_iff, ← isAlphanum_toLower]
      exact .inl (hname _ hlower)
    calc lower (s.takeWhile isTagChar)
        = lower (s.take name.length ++ (s.drop name.length).takeWhile isTagChar) := by
          rw [← List.takeWhile_append_of_pos hrun, List.take_append_drop]
      _ = name ++ tail := by rw [lower, List.map_append]; exact congrArg₂ (· ++ ·) hfront hback

/-! ## Where raw text ends -/

/-- What can stand behind the name of an element in the name of an end tag that ends its raw text:
nothing, or what begins with a hyphen or an underscore. -/
def IsTail (tail : List Char) : Prop := ∀ c ∈ tail.head?, IsMark c

theorem isTail_lower_iff (s : List Char) :
    IsTail (lower (s.takeWhile isTagChar)) ↔ ∀ c ∈ s.head?, c.isAlphanum = false := by
  cases s with
  | nil => simp [IsTail, lower]
  | cons c s =>
    by_cases hc : isTagChar c = true
    · have hmark : IsMark c ↔ c.isAlphanum = false := by
        refine ⟨IsMark.isAlphanum, fun h => (isTagChar_iff.1 hc).resolve_left ?_⟩
        rw [h]
        exact Bool.false_ne_true
      simp [IsTail, lower, hc, isMark_toLower, hmark]
    · have halnum : c.isAlphanum = false :=
        Bool.eq_false_iff.2 fun h => hc (isTagChar_iff.2 (.inl h))
      simp [IsTail, lower, hc, halnum]

theorem lower_takeWhile_eq_nil_iff (s : List Char) :
    lower (s.takeWhile isTagChar) = [] ↔ ∀ c ∈ s.head?, isTagChar c = false := by
  cases s with
  | nil => simp [lower]
  | cons c s => cases hc : isTagChar c <;> simp [lower, hc]

/-- Raw text ends at the end tags whose name is the name of the element and a tail. -/
theorem endsRawText_iff {tag : List Char} (htag : ∀ c ∈ tag, c.isAlphanum = true) (s : List Char) :
    endsRawText tag ('<' :: '/' :: s) = true ↔ ∃ tail, endName s = tag ++ tail ∧ IsTail tail := by
  have hends : endsRawText tag ('<' :: '/' :: s) = true ↔
      lower ((skipSpace s).take tag.length) = tag ∧
        IsTail (lower (((skipSpace s).drop tag.length).takeWhile isTagChar)) := by
    rw [isTail_lower_iff, endsRawText, Bool.and_eq_true, beq_iff_eq, Option.all_eq_true]
    simp only [Bool.not_eq_true', Option.mem_def]
  simp only [hends, endName_eq_append_iff htag]
  constructor
  · rintro ⟨hname, htail⟩
    exact ⟨_, ⟨hname, rfl⟩, htail⟩
  · rintro ⟨tail, ⟨hname, rfl⟩, htail⟩
    exact ⟨hname, htail⟩

/-- The content of a raw-text element is all in front of the first place where it ends. -/
theorem takeRawText?_eq_some_iff {tag s content rest : List Char} :
    takeRawText? tag s = some (content, rest) ↔
      s = content ++ rest ∧ endsRawText tag rest = true ∧
        ∀ front back, content = front ++ back → back ≠ [] →
          endsRawText tag (back ++ rest) = false := by
  induction s generalizing content with
  | nil =>
    constructor
    · intro h
      cases h
    · rintro ⟨hnil, hends, -⟩
      rw [(List.append_eq_nil_iff.1 hnil.symm).2] at hends
      cases hends
  | cons c s ih =>
    rw [takeRawText?]
    split
    · rename_i hends
      constructor
      · intro h
        cases h
        refine ⟨rfl, hends, fun front back hnil hback => ?_⟩
        exact absurd (List.append_eq_nil_iff.1 hnil.symm).2 hback
      · rintro ⟨hs, -, hfirst⟩
        -- The raw text would end at the front of the content already.
        cases content with
        | nil => rw [hs, List.nil_append]
        | cons d content =>
          have hlater := hfirst [] (d :: content) rfl (List.cons_ne_nil _ _)
          rw [← hs, hends] at hlater
          cases hlater
    · rename_i hends
      rw [Option.map_eq_some_iff]
      constructor
      · rintro ⟨⟨content', rest'⟩, htake, heq⟩
        cases heq
        obtain ⟨hs, hrest, hfirst⟩ := ih.1 htake
        refine ⟨congrArg (c :: ·) hs, hrest, fun front back hcontent hback => ?_⟩
        obtain ⟨-, rfl⟩ | ⟨front', -, hlater⟩ := List.cons_eq_append_iff.1 hcontent
        · rw [List.cons_append, ← hs]
          exact Bool.eq_false_iff.2 hends
        · exact hfirst front' back hlater hback
      · rintro ⟨hs, hrest, hfirst⟩
        cases content with
        | nil =>
          rw [hs, List.nil_append] at hends
          exact absurd hrest hends
        | cons d content =>
          obtain ⟨rfl, hs'⟩ := List.cons.inj hs
          refine ⟨(content, rest), ih.2 ⟨hs', hrest, fun front back hcontent hback => ?_⟩, rfl⟩
          exact hfirst (c :: front) back (congrArg (c :: ·) hcontent) hback

theorem IsRawText.isAlphanum {tag : String} (h : IsRawText tag) :
    ∀ c ∈ tag.toList, c.isAlphanum = true := by
  simp only [IsRawText, List.mem_cons, List.not_mem_nil, or_false] at h
  rw [← List.all_eq_true]
  rcases h with (rfl | rfl) | rfl | rfl <;> decide

/-- **Raw text.** The end tag behind a raw text is read with the name of the element and a tail,
which is empty unless a hyphen or an underscore stands right behind the name. No end tag in the
content is read with such a name. -/
theorem takeRawText?_endTag {tag : String} (htag : IsRawText tag) {s content rest : List Char}
    (h : takeRawText? tag.toList s = some (content, rest)) :
    s = content ++ rest ∧
      (∃ behind tail, rest = '<' :: '/' :: behind ∧ IsTail tail ∧
        (tail = [] ↔ ∀ c ∈ ((skipSpace behind).drop tag.length).head?, ¬ IsMark c) ∧
        readEndTag behind =
          if '>' ∈ behind then
            .ok (tag ++ String.ofList tail, (behind.dropWhile (· ≠ '>')).tail)
          else .error (.unclosedEndTag (tag ++ String.ofList tail))) ∧
      ∀ front back, content = front ++ '<' :: '/' :: back →
        ∀ name after, readEndTag (back ++ rest) = .ok (name, after) →
          ∀ tail, IsTail tail → name ≠ tag ++ String.ofList tail := by
  obtain ⟨hs, hends, hfirst⟩ := takeRawText?_eq_some_iff.1 h
  refine ⟨hs, ?_, ?_⟩
  · obtain ⟨behind, rfl⟩ : ∃ behind, rest = '<' :: '/' :: behind := by
      by_contra hnone
      rw [endsRawText_of_ne (not_exists.1 hnone)] at hends
      cases hends
    obtain ⟨tail, hname, htail⟩ := (endsRawText_iff htag.isAlphanum behind).1 hends
    have hread : String.ofList (endName behind) = tag ++ String.ofList tail := by
      rw [hname, String.ofList_append, String.ofList_toList]
    refine ⟨behind, tail, rfl, htail, ?_, by rw [readEndTag_eq, hread]⟩
    obtain ⟨-, rfl⟩ := (endName_eq_append_iff htag.isAlphanum tail behind).1 hname
    rw [isTail_lower_iff] at htail
    rw [lower_takeWhile_eq_nil_iff, ← String.length_toList]
    refine forall₂_congr fun c hc => ?_
    rw [← Bool.not_eq_true, isTagChar_iff, htail c hc]
    simp only [Bool.false_eq_true, false_or]
  · rintro front back hcontent name after hread tail htail rfl
    have hname : endName (back ++ rest) = tag.toList ++ tail := by
      simpa using congrArg String.toList (eq_endName_of_readEndTag hread).symm
    have hlater := hfirst front ('<' :: '/' :: back) hcontent (List.cons_ne_nil _ _)
    have hearlier := (endsRawText_iff htag.isAlphanum (back ++ rest)).2 ⟨tail, hname, htail⟩
    exact absurd hearlier (Bool.eq_false_iff.1 hlater)

/-- With a hyphen behind the name, a text area ends at the end tag of another element. -/
theorem not_forall_endTag_name :
    ¬ ∀ (tag : String) (s content behind after : List Char) (name : String), IsRawText tag →
      takeRawText? tag.toList s = some (content, '<' :: '/' :: behind) →
        readEndTag behind = .ok (name, after) → name = tag := by
  intro hall
  have htake : takeRawText? "textarea".toList "a</textarea-x>b</textarea>".toList =
      some ("a".toList, "</textarea-x>b</textarea>".toList) := by decide +kernel
  have hread : readEndTag "textarea-x>b</textarea>".toList =
      .ok ("textarea-x", "b</textarea>".toList) := by decide +kernel
  exact absurd (hall _ _ _ _ _ _ (by decide) htake hread) (by decide)

/-- The end tag of a title may be in upper case with a blank in front of its name. A longer name in
the content does not end it. -/
theorem takeRawText?_upperCase :
    takeRawText? "title".toList "a</titles></ TITLE >b".toList =
        some ("a</titles>".toList, "</ TITLE >b".toList) ∧
      readEndTag " TITLE >b".toList = .ok ("title", "b".toList) ∧
      ∀ front back, "a</titles>".toList = front ++ '<' :: '/' :: back →
        ∀ name after, readEndTag (back ++ "</ TITLE >b".toList) = .ok (name, after) →
          name ≠ "title" := by
  have htag : IsRawText "title" := by decide
  have htake : takeRawText? "title".toList "a</titles></ TITLE >b".toList =
      some ("a</titles>".toList, "</ TITLE >b".toList) := by decide +kernel
  obtain ⟨-, ⟨behind, tail, hrest, -, htail, hread⟩, hcontent⟩ := takeRawText?_endTag htag htake
  obtain rfl : " TITLE >b".toList = behind := (List.cons.inj (List.cons.inj hrest).2).2
  obtain rfl : tail = [] := htail.2 fun c hc => by
    obtain rfl : ' ' = c := Option.some.inj hc
    decide
  refine ⟨htake, hread, fun front back hsplit name after hname => ?_⟩
  exact hcontent front back hsplit name after hname [] (fun _ hc => by cases hc)

end FormRules.Markup
