import FormRules.Proofs.Dict
import FormRules.Proofs.Markup.Forest
import FormRules.Proofs.Text.Run

/-!
# Reading what was written

The reader takes back from written markup what the writer put there, one lemma for each thing that
is written, in front of any rest.

* `decode_escape`: references decode to the text that they stand for.
* `readStartTag_write`, `readEndTag_write`, `takeRawText?_write`: tags and contents.
* `Forest.tokens`, `scan_chars`: the tokens of a forest are those of its markup.
-/

namespace FormRules.Markup

open Text (Stops stops_cons dropWhile_of_stops takeWhile_run dropWhile_run)

/-! ## References -/

theorem decode_reference {run : List Char} {c : Char} (hrun : run.all isRunChar)
    (hc : referredChar? run = some c) (s : List Char) :
    decode ('&' :: (run ++ ';' :: s)) = c :: decode s := by
  have hstop : Stops isRunChar (';' :: s) := stops_cons (by decide) s
  have hrun := List.all_eq_true.1 hrun
  rw [decode, if_pos rfl, takeWhile_run hrun hstop, dropWhile_run hrun hstop, hc]
  rfl

theorem decode_cons_of_ne {c : Char} (hc : c ≠ '&') (s : List Char) :
    decode (c :: s) = c :: decode s := by
  rw [decode, if_neg hc]

/-- References decode to the text that they stand for. -/
theorem decode_escape {mark : Char} {name : List Char} (hname : name.all isRunChar)
    (hmark : referredChar? name = some mark) (s : List Char) :
    decode (escape mark name s) = s := by
  induction s with
  | nil => rw [escape, List.flatMap_nil, decode]
  | cons c s ih =>
    rw [escape, List.flatMap_cons]
    by_cases hamp : c = '&'
    · rw [if_pos hamp, hamp]
      have h : decode ('&' :: (['a', 'm', 'p'] ++ ';' :: escape mark name s)) =
          '&' :: decode (escape mark name s) := decode_reference (by decide) (by decide) _
      rw [ih] at h
      exact h
    · rw [if_neg hamp]
      by_cases hc : c = mark
      · rw [if_pos hc, List.append_assoc, List.cons_append, hc]
        have h := decode_reference hname hmark (escape mark name s)
        rw [ih] at h
        exact h
      · rw [if_neg hc, List.singleton_append, decode_cons_of_ne hamp]
        exact congrArg _ ih

/-- A mark that is written as a reference is nowhere in the text. -/
theorem not_mem_escape {mark : Char} {name : List Char}
    (hamp : mark ∉ ['&', 'a', 'm', 'p', ';']) (hname : mark ∉ name) (s : List Char) :
    mark ∉ escape mark name s := by
  intro h
  rw [escape, List.mem_flatMap] at h
  obtain ⟨c, -, hc⟩ := h
  split at hc
  · exact hamp hc
  · split at hc
    · simp only [List.cons_append, List.mem_cons, List.mem_append, List.not_mem_nil, or_false] at hc
      rcases hc with hc | hc | hc
      · exact hamp (by simp [hc])
      · exact hname hc
      · exact hamp (by simp [hc])
    · rename_i hne
      exact hne (List.mem_singleton.1 hc).symm

theorem decode_escapeText (t : String) : decode (escapeText t) = t.toList :=
  decode_escape (by decide) (by decide) _

theorem decode_escapeQuoted (t : String) : decode (escapeQuoted t) = t.toList :=
  decode_escape (by decide) (by decide) _

theorem not_mem_escapeText (t : String) : '<' ∉ escapeText t :=
  not_mem_escape (by decide) (by decide) _

theorem not_mem_escapeQuoted (t : String) : '"' ∉ escapeQuoted t :=
  not_mem_escape (by decide) (by decide) _

/-- A text without a mark is a run of other characters. -/
theorem forall_ne_of_not_mem {mark : Char} {s : List Char} (h : mark ∉ s) :
    ∀ c ∈ s, decide (c ≠ mark) := by
  intro c hc
  rw [decide_eq_true_eq]
  rintro rfl
  exact h hc

/-! ## Names -/

theorem isTagChar_of_lower {c : Char} (h : isLowerTagChar c) : isTagChar c := by
  simp only [isLowerTagChar, Bool.or_eq_true, beq_iff_eq] at h
  simp only [isTagChar, Bool.or_eq_true, beq_iff_eq]
  show ((((c.isUpper || c.isLower) || c.isDigit) = true) ∨ c = '-') ∨ c = '_'
  rcases h with ((h | h) | h) | h <;> simp [h]

theorem not_isUpper_of_lower {c : Char} (h : isLowerTagChar c ∨ c = ':') :
    ¬ (65 ≤ c.toNat ∧ c.toNat ≤ 90) := by
  simp only [isLowerTagChar, Bool.or_eq_true, beq_iff_eq] at h
  rintro ⟨h₁, h₂⟩
  rcases h with (((h | h) | rfl) | rfl) | rfl
  · obtain ⟨h, -⟩ := Bool.and_eq_true_iff.1 h
    have h : 97 ≤ c.toNat := UInt32.le_iff_toNat_le.1 (of_decide_eq_true h)
    omega
  · obtain ⟨-, h⟩ := Bool.and_eq_true_iff.1 h
    have h : c.toNat ≤ 57 := UInt32.le_iff_toNat_le.1 (of_decide_eq_true h)
    omega
  all_goals revert h₁ h₂; decide

theorem toLower_of_lower {c : Char} (h : isLowerTagChar c ∨ c = ':') : c.toLower = c := by
  refine dif_neg ?_
  rintro ⟨h₁, h₂⟩
  exact not_isUpper_of_lower h
    ⟨UInt32.le_iff_toNat_le.1 h₁, UInt32.le_iff_toNat_le.1 h₂⟩

theorem not_isSpace_of_lower {c : Char} (h : isLowerTagChar c) : isSpace c = false := by
  rw [Bool.eq_false_iff]
  intro hs
  simp only [isSpace, Bool.or_eq_true, beq_iff_eq] at hs
  rcases hs with (((rfl | rfl) | rfl) | rfl) | rfl <;> revert h <;> decide

theorem lower_eq {s : List Char} (h : ∀ c ∈ s, isLowerTagChar c ∨ c = ':') : lower s = s := by
  rw [lower, List.map_congr_left fun c hc => toLower_of_lower (h c hc), List.map_id']

theorem toList_ne_nil {s : String} (h : s ≠ "") : s.toList ≠ [] :=
  fun he => h (String.toList_inj.1 he)

/-- A name is not skipped as white space. -/
theorem skipSpace_append {name : List Char} (hne : name ≠ [])
    (hname : ∀ c ∈ name, isSpace c = false) (s : List Char) :
    skipSpace (name ++ s) = name ++ s := by
  cases name with
  | nil => exact absurd rfl hne
  | cons c name => exact dropWhile_of_stops (stops_cons (hname c List.mem_cons_self) _)

namespace IsTagName

variable {tag : String} (h : IsTagName tag)

include h

theorem lowerTagChars : ∀ c ∈ tag.toList, isLowerTagChar c := List.all_eq_true.1 h.2

theorem tagChars : ∀ c ∈ tag.toList, isTagChar c :=
  fun c hc => isTagChar_of_lower (h.lowerTagChars c hc)

theorem lower_eq : lower tag.toList = tag.toList :=
  Markup.lower_eq fun c hc => .inl (h.lowerTagChars c hc)

theorem skipSpace_append (s : List Char) : skipSpace (tag.toList ++ s) = tag.toList ++ s :=
  Markup.skipSpace_append (toList_ne_nil h.1)
    (fun c hc => not_isSpace_of_lower (h.lowerTagChars c hc)) s

/-- The name of a tag is read up to what cannot go on with it. -/
theorem ofList_takeWhile {rest : List Char} (hrest : Stops isTagChar rest) :
    String.ofList (lower ((tag.toList ++ rest).takeWhile isTagChar)) = tag := by
  rw [takeWhile_run h.tagChars hrest, h.lower_eq, String.ofList_toList]

end IsTagName

namespace IsAttributeName

variable {name : String} (h : IsAttributeName name)

include h

theorem lowerChars : ∀ c ∈ name.toList, isLowerTagChar c ∨ c = ':' := by
  intro c hc
  have hc := List.all_eq_true.1 h.2 c hc
  rwa [Bool.or_eq_true, beq_iff_eq] at hc

theorem attributeChars : ∀ c ∈ name.toList, isAttributeChar c := by
  intro c hc
  rw [isAttributeChar, Bool.or_eq_true, beq_iff_eq]
  exact (h.lowerChars c hc).imp_left isTagChar_of_lower

theorem lower_eq : lower name.toList = name.toList := Markup.lower_eq h.lowerChars

theorem skipSpace_append (s : List Char) : skipSpace (name.toList ++ s) = name.toList ++ s := by
  refine Markup.skipSpace_append (toList_ne_nil h.1) (fun c hc => ?_) s
  rcases h.lowerChars c hc with hc | rfl
  · exact not_isSpace_of_lower hc
  · rfl

end IsAttributeName

/-! ## End tags -/

theorem stops_endTag (s : List Char) : Stops isTagChar ('>' :: s) := stops_cons (by decide) s

theorem readEndTag_write {tag : String} (h : IsTagName tag) (s : List Char) :
    readEndTag (writeEndTag tag ++ s) = .ok (tag, s) := by
  have hgt : Stops (fun c => decide (c ≠ '>')) ('>' :: s) := stops_cons (by decide) s
  rw [writeEndTag, List.append_assoc, List.singleton_append, readEndTag]
  simp only [h.skipSpace_append, h.ofList_takeWhile (stops_endTag s),
    dropWhile_run h.tagChars (stops_endTag s), dropWhile_of_stops hgt]

/-! ## Attributes -/

theorem readValue_write (value : String) (s : List Char) :
    readValue ('"' :: (escapeQuoted value ++ '"' :: s)) = .ok (value, s) := by
  have hrun := forall_ne_of_not_mem (not_mem_escapeQuoted value)
  have hquote : Stops (fun c => decide (c ≠ '"')) ('"' :: s) := stops_cons (by decide) s
  rw [readValue, if_pos (.inl rfl)]
  simp only [dropWhile_run hrun hquote, takeWhile_run hrun hquote]
  rw [decode_escapeQuoted, String.ofList_toList]

theorem readAssigned_write (value : String) (s : List Char) :
    readAssigned ('=' :: '"' :: (escapeQuoted value ++ '"' :: s)) = .ok (value, s) := by
  have heq : ∀ s, skipSpace ('=' :: s) = '=' :: s :=
    fun s => dropWhile_of_stops (stops_cons (by decide) s)
  have hquote : ∀ s, skipSpace ('"' :: s) = '"' :: s :=
    fun s => dropWhile_of_stops (stops_cons (by decide) s)
  rw [readAssigned, heq]
  simp only [hquote]
  exact readValue_write value s

/-- A part of a tag that begins with the name of an attribute is that attribute. -/
theorem nextPart_of_name {tag : String} {name s assigned rest : List Char} {value : String}
    (hne : name ≠ []) (hname : ∀ c ∈ name, isAttributeChar c)
    (hs : skipSpace s = name ++ assigned) (hstop : Stops isAttributeChar assigned)
    (hvalue : readAssigned assigned = .ok (value, rest)) :
    nextPart tag s = .ok (.attribute (String.ofList (lower name)) value, rest) := by
  have htake := takeWhile_run hname hstop
  have hdrop := dropWhile_run hname hstop
  cases name with
  | nil => exact absurd rfl hne
  | cons c name =>
    have hc : isAttributeChar c := hname c List.mem_cons_self
    rw [List.cons_append] at hs htake hdrop
    unfold nextPart
    rw [hs]
    split
    · rename_i h
      cases h
    · rename_i h
      obtain ⟨rfl, -⟩ := List.cons.inj h
      exact absurd hc (by decide)
    · rename_i h
      obtain ⟨rfl, -⟩ := List.cons.inj h
      exact absurd hc (by decide)
    · rename_i h
      obtain ⟨rfl, rfl⟩ := List.cons.inj h
      simp only [if_pos hc, htake, hdrop, hvalue]

theorem nextPart_write {tag name : String} (h : IsAttributeName name) (value : String)
    (s : List Char) :
    nextPart tag (writeAttribute name value ++ s) = .ok (.attribute name value, s) := by
  have hspace : skipSpace (writeAttribute name value ++ s) = name.toList ++
      '=' :: '"' :: (escapeQuoted value ++ '"' :: s) := by
    rw [← h.skipSpace_append]
    simp [writeAttribute, skipSpace, isSpace]
  rw [nextPart_of_name (toList_ne_nil h.1) h.attributeChars hspace (stops_cons (by decide) _)
      (readAssigned_write value s),
    h.lower_eq, String.ofList_toList]

theorem nextPart_close (tag : String) (s : List Char) :
    nextPart tag ('>' :: s) = .ok (.close false, s) := by
  have hs : skipSpace ('>' :: s) = '>' :: s := dropWhile_of_stops (stops_cons (by decide) s)
  simp only [nextPart, hs]

theorem readParts_of_attribute {tag name value : String} {attributes : Attributes}
    {s rest : List Char} (h : nextPart tag s = .ok (.attribute name value, rest)) :
    readParts tag attributes s = readParts tag (attributes.insertNew name value) rest := by
  rw [readParts]
  split <;> simp_all

theorem readParts_of_close {tag : String} {attributes : Attributes} {s rest : List Char}
    {selfClosing : Bool} (h : nextPart tag s = .ok (.close selfClosing, rest)) :
    readParts tag attributes s = .ok (attributes, selfClosing, rest) := by
  rw [readParts]
  split <;> simp_all

/-- Written attributes are added one after the other. -/
theorem readParts_write (tag : String) (entries : List (String × String))
    (hnames : ∀ name ∈ entries.map Prod.fst, IsAttributeName name) (attributes : Attributes)
    (s : List Char) :
    readParts tag attributes
        (entries.flatMap (fun (name, value) => writeAttribute name value) ++ '>' :: s) =
      .ok (entries.foldl (fun d (name, value) => d.insertNew name value) attributes, false, s) := by
  induction entries generalizing attributes with
  | nil => exact readParts_of_close (nextPart_close tag s)
  | cons e entries ih =>
    obtain ⟨hname, hnames⟩ := List.forall_mem_cons.1 hnames
    rw [List.flatMap_cons, List.append_assoc, readParts_of_attribute (nextPart_write hname e.2 _)]
    exact ih hnames _

/-! ## Start tags -/

theorem readStartTag_write {tag : String} {attributes : Attributes} (h : IsTagName tag)
    (hnames : ∀ name ∈ attributes.keys, IsAttributeName name) (s : List Char) :
    readStartTag (writeStartTag tag attributes ++ s) = .ok (⟨tag, attributes, false⟩, s) := by
  have hstop : Stops isTagChar
      (attributes.entries.flatMap (fun (name, value) => writeAttribute name value) ++
        '>' :: s) := by
    cases attributes.entries with
    | nil => exact stops_endTag s
    | cons e entries => exact stops_cons (by decide) _
  have hparts := readParts_write tag attributes.entries hnames ∅ s
  rw [Dict.foldl_insertNew_entries] at hparts
  rw [writeStartTag, List.append_assoc, List.append_assoc, List.singleton_append]
  simp only [readStartTag, readTagName, h.skipSpace_append, h.ofList_takeWhile hstop,
    dropWhile_run h.tagChars hstop, if_neg h.1, hparts]

/-! ## Raw text -/

theorem endsRawText_write {tag : String} (h : IsTagName tag) (s : List Char) :
    endsRawText tag.toList ('<' :: '/' :: (writeEndTag tag ++ s)) = true := by
  rw [writeEndTag, List.append_assoc, List.singleton_append, endsRawText]
  simp only [h.skipSpace_append, List.take_left, List.drop_left, h.lower_eq]
  exact Bool.and_eq_true_iff.2 ⟨beq_self_eq_true _, rfl⟩

theorem endsRawText_of_ne {tag s : List Char} (h : ∀ s', s ≠ '<' :: '/' :: s') :
    endsRawText tag s = false := by
  unfold endsRawText
  split
  · rename_i s'
    exact absurd rfl (h s')
  · rfl

/-- A content in which no end tag begins is taken whole. -/
theorem takeRawText?_write {tag : String} (h : IsTagName tag) {content : List Char}
    (hcontent : ¬ ['<', '/'] <:+: content) (s : List Char) :
    takeRawText? tag.toList (content ++ '<' :: '/' :: (writeEndTag tag ++ s)) =
      some (content, '<' :: '/' :: (writeEndTag tag ++ s)) := by
  induction content with
  | nil => rw [List.nil_append, takeRawText?, if_pos (endsRawText_write h s)]
  | cons c content ih =>
    -- No end tag begins at `c`: the slash of the one behind the content does not follow it.
    have hne : ∀ s', c :: (content ++ '<' :: '/' :: (writeEndTag tag ++ s)) ≠ '<' :: '/' :: s' := by
      intro s' he
      obtain ⟨rfl, he'⟩ := List.cons.inj he
      cases content with
      | nil => exact absurd (List.cons.inj he').1 (by decide)
      | cons c content =>
        obtain ⟨rfl, -⟩ := List.cons.inj he'
        exact hcontent ⟨[], content, rfl⟩
    have hrest : ¬ ['<', '/'] <:+: content :=
      fun hi => hcontent (hi.trans (List.suffix_cons c content).isInfix)
    rw [List.cons_append, takeRawText?, endsRawText_of_ne hne, ih hrest]
    rfl

theorem rawText?_of_verbatim {tag : String} (h : tag ∈ ["script", "style"]) :
    rawText? tag = some .verbatim := if_pos h

theorem not_verbatim_of_decoded {tag : String} (h : tag ∈ ["textarea", "title"]) :
    tag ∉ ["script", "style"] := by
  simp only [List.mem_cons, List.not_mem_nil, or_false] at h
  rcases h with rfl | rfl <;> decide

theorem rawText?_of_decoded {tag : String} (h : tag ∈ ["textarea", "title"]) :
    rawText? tag = some .decoded := by
  rw [rawText?, if_neg (not_verbatim_of_decoded h), if_pos h]

theorem rawText?_of_not {tag : String} (h : ¬ IsRawText tag) : rawText? tag = none := by
  rw [IsRawText, not_or] at h
  rw [rawText?, if_neg h.1, if_neg h.2]

theorem not_mem_voidTags {tag : String} (h : IsRawText tag) : tag ∉ voidTags := by
  simp only [IsRawText, List.mem_cons, List.not_mem_nil, or_false] at h
  rcases h with (rfl | rfl) | (rfl | rfl) <;> decide

/-! ## Tokens -/

/-- The tokens of a forest. -/
def Forest.tokens : Forest → List Token
  | nil => []
  | text s rest => .text s :: rest.tokens
  | element tag attributes children rest =>
    if tag ∈ voidTags ∨ IsRawText tag then
      .whole tag attributes (String.ofList children.body) :: rest.tokens
    else .start tag attributes :: (children.tokens ++ .stop tag :: rest.tokens)

theorem next_stop {tag : String} (h : IsTagName tag) (s : List Char) :
    Token.next ('<' :: '/' :: (writeEndTag tag ++ s)) = .ok (some (.stop tag), s) := by
  simp only [Token.next, readEndTag_write h]

theorem next_text {t : String} (ht : t ≠ "") {s : List Char} (hs : Stops (· ≠ '<') s) :
    Token.next (escapeText t ++ s) = .ok (some (.text t), s) := by
  have hrun := forall_ne_of_not_mem (not_mem_escapeText t)
  have htext := decode_escapeText t
  -- A text is not empty and does not begin with an angle bracket, so no other case applies.
  have hne : ∀ s', escapeText t ++ s ≠ '<' :: s' := by
    intro s' he
    cases hchars : escapeText t with
    | nil =>
      rw [hchars, decode] at htext
      exact toList_ne_nil ht htext.symm
    | cons c chars =>
      rw [hchars, List.cons_append] at he
      obtain ⟨rfl, -⟩ := List.cons.inj he
      exact absurd (hrun '<' (hchars ▸ List.mem_cons_self)) (by decide)
  unfold Token.next
  split
  · rename_i h
    exact absurd h (hne _)
  · rename_i h
    exact absurd h (hne _)
  · rename_i h
    exact absurd h (hne _)
  · rename_i h
    exact absurd h (hne _)
  · rw [takeWhile_run hrun hs, dropWhile_run hrun hs, htext, String.ofList_toList]

/-- What an angle bracket begins that neither a slash nor an exclamation mark goes on with is an
element. -/
theorem next_of_readElement {c : Char} {s rest : List Char} {token : Token} (hslash : c ≠ '/')
    (hbang : c ≠ '!') (h : Token.readElement (c :: s) = .ok (token, rest)) :
    Token.next ('<' :: c :: s) = .ok (some token, rest) := by
  unfold Token.next
  split
  · rename_i he
    exact absurd (List.cons.inj (List.cons.inj he).2).1 hbang
  · rename_i he
    exact absurd (List.cons.inj (List.cons.inj he).2).1 hslash
  · rename_i he
    exact absurd (List.cons.inj (List.cons.inj he).2).1 hbang
  · rename_i he
    rw [← (List.cons.inj he).2, h]
  · rename_i hlt
    exact absurd rfl (hlt (c :: s))

theorem next_element {tag : String} {attributes : Attributes} (h : IsTagName tag)
    {s rest : List Char} {token : Token}
    (he : Token.readElement (writeStartTag tag attributes ++ s) = .ok (token, rest)) :
    Token.next ('<' :: (writeStartTag tag attributes ++ s)) = .ok (some token, rest) := by
  cases hname : tag.toList with
  | nil => exact absurd hname (toList_ne_nil h.1)
  | cons c name =>
    have hc : isLowerTagChar c := h.lowerTagChars c (hname ▸ List.mem_cons_self)
    rw [writeStartTag, hname] at he ⊢
    refine next_of_readElement ?_ ?_ he
    · rintro rfl
      exact absurd hc (by decide)
    · rintro rfl
      exact absurd hc (by decide)

section

variable {tag : String} {attributes : Attributes} (h : IsTagName tag)
  (hnames : ∀ name ∈ attributes.keys, IsAttributeName name)

include h hnames

theorem readElement_write (s : List Char) :
    Token.readElement (writeStartTag tag attributes ++ s) =
      StartTag.readContent ⟨tag, attributes, false⟩ s := by
  simp only [Token.readElement, readStartTag_write h hnames]

theorem next_void (hvoid : tag ∈ voidTags) (s : List Char) :
    Token.next ('<' :: (writeStartTag tag attributes ++ s)) =
      .ok (some (.whole tag attributes ""), s) := by
  have hraw : rawText? tag = none := rawText?_of_not fun hraw => not_mem_voidTags hraw hvoid
  refine next_element h ?_
  rw [readElement_write h hnames]
  simp only [StartTag.readContent, Bool.false_eq_true, if_false, hraw, if_pos hvoid]

theorem next_start (hvoid : tag ∉ voidTags) (hraw : ¬ IsRawText tag) (s : List Char) :
    Token.next ('<' :: (writeStartTag tag attributes ++ s)) =
      .ok (some (.start tag attributes), s) := by
  refine next_element h ?_
  rw [readElement_write h hnames]
  simp only [StartTag.readContent, Bool.false_eq_true, if_false, rawText?_of_not hraw,
    if_neg hvoid]

theorem next_raw {kind : RawText} (hraw : rawText? tag = some kind) {content : List Char}
    (hcontent : ¬ ['<', '/'] <:+: content) (s : List Char) :
    Token.next ('<' :: (writeStartTag tag attributes ++
        (content ++ '<' :: '/' :: (writeEndTag tag ++ s)))) =
      .ok (some (.whole tag attributes (String.ofList (kind.text content))), s) := by
  refine next_element h ?_
  rw [readElement_write h hnames]
  simp only [StartTag.readContent, Bool.false_eq_true, if_false, hraw,
    takeRawText?_write h hcontent, List.drop_succ_cons, List.drop_zero, readEndTag_write h]

end

/-! ## Forests -/

theorem scan_of_next {s rest : List Char} {token : Token} {tokens : List Token} (hs : s ≠ [])
    (h : Token.next s = .ok (some token, rest)) (hrest : Token.scan rest = .ok tokens) :
    Token.scan s = .ok (token :: tokens) := by
  rw [Token.scan, dif_neg hs]
  split
  · rename_i h'
    rw [h] at h'
    cases h'
  · rename_i h'
    rw [h] at h'
    cases h'
    simp only [hrest, Option.toList_some, List.singleton_append]

namespace Forest

theorem eq_of_isPlain {F : Forest} (h : F.isPlain) : F = nil ∨ ∃ t, F = text t nil := by
  match F, h with
  | nil, _ => exact .inl rfl
  | text t nil, _ => exact .inr ⟨t, rfl⟩

/-- What follows a text is the end or a tag. -/
theorem stops_chars {F : Forest} (hF : F.startsWithText = false) {s : List Char}
    (hs : Stops (· ≠ '<') s) : Stops (· ≠ '<') (F.chars ++ s) := by
  match F, hF with
  | nil, _ => exact hs
  | element tag attributes children rest, _ =>
    rw [chars, List.cons_append, List.append_assoc]
    exact stops_cons (by decide) _

/-- The content that a raw-text element is written with, and the text that it is read as. -/
theorem raw_content {tag : String} (attributes : Attributes) {children : Forest} (rest : Forest)
    (hraw : IsRawText tag) (hfits : Fits tag children) :
    ∃ kind content, rawText? tag = some kind ∧ ¬ ['<', '/'] <:+: content ∧
      kind.text content = children.body ∧
      ∀ s, (element tag attributes children rest).chars ++ s =
        '<' :: (writeStartTag tag attributes ++
          (content ++ '<' :: '/' :: (writeEndTag tag ++ (rest.chars ++ s)))) := by
  have hvoid := not_mem_voidTags hraw
  have hplain := hfits.2.1 hraw
  rcases hraw with hv | hd
  · refine ⟨.verbatim, children.body, rawText?_of_verbatim hv, hfits.2.2 hv, rfl, fun s => ?_⟩
    simp [chars, hvoid, hv]
  · have hv := not_verbatim_of_decoded hd
    rcases eq_of_isPlain hplain with rfl | ⟨t, rfl⟩
    · refine ⟨.decoded, [], rawText?_of_decoded hd, by decide, ?_, fun s => ?_⟩
      · show decode [] = []
        rw [decode]
      · simp [chars, hvoid, hv]
    · refine ⟨.decoded, '\n' :: escapeText t, rawText?_of_decoded hd, ?_, ?_, fun s => ?_⟩
      · intro hi
        have hmem : '<' ∈ '\n' :: escapeText t := hi.subset List.mem_cons_self
        rcases List.mem_cons.1 hmem with he | hmem
        · exact absurd he (by decide)
        · exact not_mem_escapeText t hmem
      · rw [RawText.text, dropLineBreak, decode_escapeText, body, body, List.append_nil]
      · simp [chars, hvoid, hv, hd]

/-- **The tokens of a forest are those of its markup**, in front of whatever begins with a tag. -/
theorem scan_chars {F : Forest} (hF : F.Writable) {s : List Char} {ts : List Token}
    (hs : Stops (· ≠ '<') s) (hts : Token.scan s = .ok ts) :
    Token.scan (F.chars ++ s) = .ok (F.tokens ++ ts) := by
  induction F generalizing s ts with
  | nil => exact hts
  | text t rest ih =>
    obtain ⟨ht, htext, hrest⟩ := hF
    rw [chars, List.append_assoc]
    have hne : escapeText t ++ (rest.chars ++ s) ≠ [] := by
      intro he
      have htoList := decode_escapeText t
      rw [(List.append_eq_nil_iff.1 he).1, decode] at htoList
      exact toList_ne_nil ht htoList.symm
    exact scan_of_next hne (next_text ht (stops_chars htext hs)) (ih hrest hs hts)
  | element tag attributes children rest ihc ih =>
    obtain ⟨htag, hnames, hfits, hchildren, hrest⟩ := hF
    have hrest := ih hrest hs hts
    by_cases hraw : IsRawText tag
    · obtain ⟨kind, content, hkind, hcontent, htext, hchars⟩ :=
        raw_content attributes rest hraw hfits
      rw [hchars, tokens, if_pos (.inr hraw), ← htext]
      exact scan_of_next (List.cons_ne_nil _ _) (next_raw htag hnames hkind hcontent _) hrest
    · by_cases hvoid : tag ∈ voidTags
      · have hchars : (element tag attributes children rest).chars ++ s =
            '<' :: (writeStartTag tag attributes ++ (rest.chars ++ s)) := by
          simp [chars, hvoid]
        rw [hchars, tokens, if_pos (.inl hvoid), hfits.1 hvoid]
        exact scan_of_next (List.cons_ne_nil _ _) (next_void htag hnames hvoid _) hrest
      · have hchars : (element tag attributes children rest).chars ++ s =
            '<' :: (writeStartTag tag attributes ++ (children.chars ++
              '<' :: '/' :: (writeEndTag tag ++ (rest.chars ++ s)))) := by
          rw [IsRawText, not_or] at hraw
          simp only [chars, if_neg hvoid, if_neg hraw.1, hraw.2, false_and, if_false,
            List.cons_append, List.append_assoc]
        -- Read from the back: the end tag with the rest, the content, the start tag.
        have hstop := scan_of_next (List.cons_ne_nil _ _) (next_stop htag _) hrest
        have hinner := ihc hchildren (stops_cons (by decide) _) hstop
        rw [hchars, tokens, if_neg (not_or.2 ⟨hvoid, hraw⟩), List.cons_append, List.append_assoc]
        exact scan_of_next (List.cons_ne_nil _ _) (next_start htag hnames hvoid hraw _) hinner

end Forest

end FormRules.Markup
