import FormRules.Dict
import FormRules.Error
import FormRules.Markup.Reference

/-!
# Tokens of markup

Markup is read into tokens: texts, start tags, whole elements and end tags. An element is whole when
its tag closes itself, when it never has content, or when its content is raw text, which ends only
at the end tag of that name. This is the part of `parse_html` that moves its cursor; the text behind
the cursor is the list of characters that each function takes and gives back.

* `Advances`: going forward in a text, not behind its end, as each reader does.
* `nextPart`, `readTagName`, `readStartTag`, `readEndTag`: the inside of tags.
* `takeRawText?`, `StartTag.readContent`: the content of elements.
* `Token.next`: the token at the front, if any, and the rest; `next_advances`.
* `Token.scan`: the tokens of a text, or the first fault.
-/

namespace FormRules.Markup

/-- The attributes of an element. -/
abbrev Attributes := Dict String String

/-! ## Going on in a text -/

/-- Going on in a text: by at least one character, and not behind the end. -/
def Advances (s rest : List Char) : Prop := ∃ passed, passed ≠ [] ∧ s = passed ++ rest

section Advances

variable {s s' rest : List Char}

theorem Advances.suffix (h : Advances s rest) : rest <:+ s := by
  obtain ⟨passed, -, rfl⟩ := h
  exact List.suffix_append passed rest

theorem Advances.length_lt (h : Advances s rest) : rest.length < s.length := by
  obtain ⟨passed, hpassed, rfl⟩ := h
  rw [List.length_append]
  exact Nat.lt_add_of_pos_left (List.length_pos_iff.2 hpassed)

theorem Advances.of_suffix_tail {c : Char} (h : rest <:+ s) : Advances (c :: s) rest := by
  obtain ⟨passed, rfl⟩ := h
  exact ⟨c :: passed, List.cons_ne_nil c passed, rfl⟩

theorem Advances.of_suffix_left (h : s' <:+ s) (h' : Advances s' rest) : Advances s rest := by
  obtain ⟨front, rfl⟩ := h
  obtain ⟨passed, hpassed, rfl⟩ := h'
  exact ⟨front ++ passed, List.append_ne_nil_of_right_ne_nil front hpassed,
    (List.append_assoc ..).symm⟩

theorem Advances.trans_suffix (h : Advances s s') (h' : rest <:+ s') : Advances s rest := by
  obtain ⟨passed, hpassed, rfl⟩ := h
  obtain ⟨front, rfl⟩ := h'
  exact ⟨passed ++ front, List.append_ne_nil_of_left_ne_nil hpassed front,
    (List.append_assoc ..).symm⟩

end Advances

/-! ## Characters -/

/-- The white space of markup: five ASCII characters. -/
def isSpace (c : Char) : Bool :=
  c == ' ' || c == '\t' || c == '\n' || c == '\x0c' || c == '\r'

/-- A character of the name of a tag (`is_tag_name_byte`). -/
def isTagChar (c : Char) : Bool := c.isAlphanum || c == '-' || c == '_'

/-- A character of the name of an attribute (`is_attr_name_byte`). -/
def isAttributeChar (c : Char) : Bool := isTagChar c || c == ':'

/-- Leaves out the white space in front (`skip_ws`). -/
def skipSpace (s : List Char) : List Char := s.dropWhile isSpace

/-- Characters with the ASCII letters in lower case, as `read_start_tag` and `read_end_tag` keep
names. -/
def lower (s : List Char) : List Char := s.map Char.toLower

/-! ## Attributes -/

/-- Takes what stands without quotes, up to white space or the end of the tag (`take_unquoted`). -/
def takeUnquoted : List Char → List Char × List Char
  | [] => ([], [])
  | '/' :: '>' :: s => ([], '/' :: '>' :: s)
  | c :: s =>
    if isSpace c ∨ c = '>' then ([], c :: s)
    else let (taken, rest) := takeUnquoted s; (c :: taken, rest)

/-- Reads the value of an attribute, in quotes or without (`read_attr_value`). -/
def readValue : List Char → Except MarkupFault (String × List Char)
  | [] => .error .missingAttributeValue
  | c :: s =>
    if c = '"' ∨ c = '\'' then
      match s.dropWhile (· ≠ c) with
      | [] => .error .unclosedQuote
      | _ :: rest => .ok (String.ofList (decode (s.takeWhile (· ≠ c))), rest)
    else .ok (String.ofList (decode (takeUnquoted (c :: s)).1), (takeUnquoted (c :: s)).2)

/-- Reads the value behind the name of an attribute, as `read_start_tag` does; without an equals
sign it is empty. -/
def readAssigned (s : List Char) : Except MarkupFault (String × List Char) :=
  match skipSpace s with
  | '=' :: s => readValue (skipSpace s)
  | s => .ok ("", s)

/-- A part of a start tag behind its name, by the branches of the loop of `read_start_tag`. -/
inductive TagPart
  | close (selfClosing : Bool)
  | attribute (name value : String)
  | junk
  deriving DecidableEq, Repr, Inhabited

/-- Reads the next part of the start tag of an element: a turn of the loop of `read_start_tag`. Junk
is left out up to white space or the end of the tag. -/
def nextPart (tag : String) (s : List Char) : Except MarkupFault (TagPart × List Char) :=
  match skipSpace s with
  | [] => .error (.unclosedStartTag tag)
  | '>' :: s => .ok (.close false, s)
  | '/' :: '>' :: s => .ok (.close true, s)
  | c :: s =>
    if isAttributeChar c then
      let name := String.ofList (lower ((c :: s).takeWhile isAttributeChar))
      match readAssigned ((c :: s).dropWhile isAttributeChar) with
      | .error fault => .error fault
      | .ok (value, s) => .ok (.attribute name value, s)
    else .ok (.junk, (takeUnquoted (c :: s)).2)

/-! ### Reading goes on -/

theorem skipSpace_suffix (s : List Char) : skipSpace s <:+ s := List.dropWhile_suffix isSpace

theorem takeUnquoted_suffix (s : List Char) : (takeUnquoted s).2 <:+ s := by
  fun_induction takeUnquoted s with
  | case1 => exact List.suffix_rfl
  | case2 s => exact List.suffix_rfl
  | case3 c s hend hc => exact List.suffix_rfl
  | case4 c s hend hc taken rest heq ih =>
    rw [heq] at ih
    exact ih.trans (List.suffix_cons c s)

theorem readValue_suffix {value : String} {s rest : List Char}
    (h : readValue s = .ok (value, rest)) : rest <:+ s := by
  unfold readValue at h
  split at h
  · cases h
  · rename_i c s
    split at h
    · split at h
      · cases h
      · rename_i hd
        cases h
        have hdrop : s.dropWhile (· ≠ c) <:+ s := List.dropWhile_suffix _
        rw [hd] at hdrop
        exact (List.suffix_cons _ _).trans (hdrop.trans (List.suffix_cons c s))
    · cases h
      exact takeUnquoted_suffix _

theorem readAssigned_suffix {value : String} {s rest : List Char}
    (h : readAssigned s = .ok (value, rest)) : rest <:+ s := by
  have hs := skipSpace_suffix s
  unfold readAssigned at h
  split at h
  · rename_i s' hd
    rw [hd] at hs
    exact ((readValue_suffix h).trans (skipSpace_suffix s')).trans
      ((List.suffix_cons '=' s').trans hs)
  · cases h
    exact hs

/-- What stands without quotes begins with a character that is neither white space nor the end of
the tag. -/
theorem takeUnquoted_advances {c : Char} {s : List Char} (hc : isSpace c = false) (hgt : c ≠ '>')
    (hend : ∀ s', c :: s ≠ '/' :: '>' :: s') : Advances (c :: s) (takeUnquoted (c :: s)).2 := by
  have hstop : ¬ (isSpace c = true ∨ c = '>') := by simp [hc, hgt]
  have htake : (takeUnquoted (c :: s)).2 = (takeUnquoted s).2 := by
    rw [takeUnquoted.eq_def]
    split
    · rename_i h
      cases h
    · rename_i s' h
      exact absurd h (hend s')
    · rename_i h
      cases h
      rw [if_neg hstop]
  rw [htake]
  exact .of_suffix_tail (takeUnquoted_suffix s)

/-- A turn over the parts of a start tag goes on. -/
theorem nextPart_advances {tag : String} {s rest : List Char} {part : TagPart}
    (h : nextPart tag s = .ok (part, rest)) : Advances s rest := by
  have hs := skipSpace_suffix s
  unfold nextPart at h
  split at h
  · cases h
  · rename_i hd
    cases h
    rw [hd] at hs
    exact .of_suffix_left hs (.of_suffix_tail List.suffix_rfl)
  · rename_i hd
    cases h
    rw [hd] at hs
    exact .of_suffix_left hs (.of_suffix_tail (List.suffix_cons '>' _))
  · rename_i c s' hgt hend hd
    rw [hd] at hs
    refine .of_suffix_left hs ?_
    split at h
    · rename_i hc
      split at h
      · cases h
      · rename_i hvalue
        cases h
        have hname : (c :: s').dropWhile isAttributeChar <:+ s' := by
          rw [List.dropWhile_cons_of_pos hc]
          exact List.dropWhile_suffix _
        exact .of_suffix_tail ((readAssigned_suffix hvalue).trans hname)
    · cases h
      have hspace : isSpace c = false := by
        have := List.head?_dropWhile_not isSpace s
        rw [← skipSpace, hd] at this
        simpa using this
      refine takeUnquoted_advances hspace ?_ ?_
      · rintro rfl
        exact hgt rfl
      · intro s'' he
        obtain ⟨rfl, rfl⟩ := List.cons.inj he
        exact hend s'' rfl rfl

/-! ## Tags -/

/-- Reads the parts of a start tag up to its end: the loop of `read_start_tag`. Of attributes with
one name the first counts. -/
def readParts (tag : String) (attributes : Attributes) (s : List Char) :
    Except MarkupFault (Attributes × Bool × List Char) :=
  match _h : nextPart tag s with
  | .error fault => .error fault
  | .ok (.close selfClosing, rest) => .ok (attributes, selfClosing, rest)
  | .ok (.attribute name value, rest) => readParts tag (attributes.insertNew name value) rest
  | .ok (.junk, rest) => readParts tag attributes rest
termination_by s.length
decreasing_by all_goals exact (nextPart_advances _h).length_lt

/-- What a start tag says (`StartTag`). -/
structure StartTag where
  name : String
  attributes : Attributes
  selfClosing : Bool

/-- Reads the name of a start tag behind its angle bracket: the beginning of `read_start_tag`. -/
def readTagName (s : List Char) : Except MarkupFault (String × List Char) :=
  let s := skipSpace s
  let name := String.ofList (lower (s.takeWhile isTagChar))
  if name = "" then .error .emptyTagName else .ok (name, s.dropWhile isTagChar)

/-- Reads a start tag behind its angle bracket (`read_start_tag`). -/
def readStartTag (s : List Char) : Except MarkupFault (StartTag × List Char) :=
  match readTagName s with
  | .error fault => .error fault
  | .ok (name, s) =>
    match readParts name ∅ s with
    | .error fault => .error fault
    | .ok (attributes, selfClosing, s) => .ok (⟨name, attributes, selfClosing⟩, s)

/-- Reads an end tag behind its angle bracket and slash (`read_end_tag`). All between the name and
the end of the tag is left out. -/
def readEndTag (s : List Char) : Except MarkupFault (String × List Char) :=
  let s := skipSpace s
  let name := String.ofList (lower (s.takeWhile isTagChar))
  match (s.dropWhile isTagChar).dropWhile (· ≠ '>') with
  | [] => .error (.unclosedEndTag name)
  | _ :: s => .ok (name, s)

/-! ## Comments and declarations -/

/-- Leaves out all up to the end of a comment: `skip_past`, as `parse_html` calls it. -/
def skipComment? : List Char → Option (List Char)
  | '-' :: '-' :: '>' :: s => some s
  | _ :: s => skipComment? s
  | [] => none

/-- Leaves out all up to the end of a declaration, which is not in quotes (`skip_declaration`). -/
def skipDeclaration? (quote : Option Char) : List Char → Option (List Char)
  | [] => none
  | c :: s =>
    match quote with
    | some q => skipDeclaration? (if c = q then none else quote) s
    | none =>
      if c = '>' then some s
      else skipDeclaration? (if c = '\'' ∨ c = '"' then some c else none) s

/-! ## Raw text -/

/-- How the content of an element is read: as it is, or with its references replaced. -/
inductive RawText
  | verbatim | decoded
  deriving DecidableEq, Repr, Inhabited

/-- The elements whose content is not markup (`raw_text_mode`). -/
def rawText? (tag : String) : Option RawText :=
  if tag ∈ ["script", "style"] then some .verbatim
  else if tag ∈ ["textarea", "title"] then some .decoded
  else none

/-- The elements that never have content (`is_void_tag`). -/
def voidTags : List String :=
  ["area", "base", "br", "col", "embed", "hr", "img", "input", "link", "meta", "param", "source",
    "track", "wbr"]

/-- Whether the end tag of a raw-text element begins here (`closes_raw_text`): its name in any case,
and then nothing that goes on with a letter or digit. -/
def endsRawText (tag : List Char) : List Char → Bool
  | '<' :: '/' :: s =>
    let s := skipSpace s
    lower (s.take tag.length) == tag &&
      ((s.drop tag.length).head?.all fun c => !c.isAlphanum)
  | _ => false

/-- Takes the content of a raw-text element, up to its end tag (`raw_text`). -/
def takeRawText? (tag : List Char) : List Char → Option (List Char × List Char)
  | [] => none
  | c :: s =>
    if endsRawText tag (c :: s) then some ([], c :: s)
    else (takeRawText? tag s).map fun (taken, rest) => (c :: taken, rest)

/-- Leaves out a line break right at the start of a content (`strip_initial_newline`). -/
def dropLineBreak : List Char → List Char
  | '\r' :: '\n' :: s => s
  | '\n' :: s => s
  | s => s

/-- The text of a content, as `parse_html` makes it of a raw text. -/
def RawText.text (kind : RawText) (content : List Char) : List Char :=
  match kind with
  | verbatim => content
  | decoded => decode (dropLineBreak content)

/-! ## Tokens -/

/-- A token of markup. -/
inductive Token
  | text (content : String)
  /-- A start tag whose element stays open. -/
  | start (tag : String) (attributes : Attributes)
  /-- An element that is complete, with a text or without. -/
  | whole (tag : String) (attributes : Attributes) (content : String)
  | stop (tag : String)
  deriving DecidableEq, Repr, Inhabited

/-- Reads on behind a start tag, up to the end of the element where it holds no markup: what
`parse_html` does behind `read_start_tag`. -/
def StartTag.readContent (tag : StartTag) (s : List Char) :
    Except MarkupFault (Token × List Char) :=
  if tag.selfClosing then .ok (.whole tag.name tag.attributes "", s)
  else match rawText? tag.name with
    | some kind =>
      match takeRawText? tag.name.toList s with
      | none => .error (.unclosedElement tag.name)
      | some (content, s) =>
        match readEndTag (s.drop 2) with
        | .error fault => .error fault
        | .ok (_, s) =>
          .ok (.whole tag.name tag.attributes (String.ofList (kind.text content)), s)
    | none =>
      if tag.name ∈ voidTags then .ok (.whole tag.name tag.attributes "", s)
      else .ok (.start tag.name tag.attributes, s)

namespace Token

/-- Reads the token that a start tag begins, behind its angle bracket: the branch of `parse_html`
for start tags. -/
def readElement (s : List Char) : Except MarkupFault (Token × List Char) :=
  match readStartTag s with
  | .error fault => .error fault
  | .ok (tag, s) => tag.readContent s

/-- Reads what stands at the front: a token, or a comment or declaration that is left out. This is a
turn of the loop of `parse_html`. -/
def next (s : List Char) : Except MarkupFault (Option Token × List Char) :=
  match s with
  | '<' :: '!' :: '-' :: '-' :: s =>
    match skipComment? s with
    | none => .error .unclosedComment
    | some s => .ok (none, s)
  | '<' :: '/' :: s =>
    match readEndTag s with
    | .error fault => .error fault
    | .ok (name, s) => .ok (some (stop name), s)
  | '<' :: '!' :: s =>
    match skipDeclaration? none s with
    | none => .error .unclosedDeclaration
    | some s => .ok (none, s)
  | '<' :: s =>
    match readElement s with
    | .error fault => .error fault
    | .ok (token, s) => .ok (some token, s)
  | s =>
    .ok (some (text (String.ofList (decode (s.takeWhile (· ≠ '<'))))), s.dropWhile (· ≠ '<'))

end Token

/-! ### Reading goes on -/

theorem readParts_advances {tag : String} {attributes attributes' : Attributes}
    {s rest : List Char} {selfClosing : Bool}
    (h : readParts tag attributes s = .ok (attributes', selfClosing, rest)) : Advances s rest := by
  fun_induction readParts tag attributes s with
  | case1 => cases h
  | case2 attributes s selfClosing' rest' hp =>
    cases h
    exact nextPart_advances hp
  | case3 attributes s name value rest' hp ih =>
    exact (nextPart_advances hp).trans_suffix (ih h).suffix
  | case4 attributes s rest' hp ih => exact (nextPart_advances hp).trans_suffix (ih h).suffix

section

variable {name : String} {tag : StartTag} {token : Token} {s rest : List Char}

/-- A name has at least one character. -/
theorem readTagName_advances (h : readTagName s = .ok (name, rest)) : Advances s rest := by
  unfold readTagName at h
  dsimp only at h
  split at h
  · cases h
  · rename_i hname
    cases h
    refine .of_suffix_left (skipSpace_suffix s) ⟨(skipSpace s).takeWhile isTagChar, ?_, ?_⟩
    · intro hnil
      rw [hnil] at hname
      exact hname rfl
    · exact (List.takeWhile_append_dropWhile ..).symm

theorem readStartTag_advances (h : readStartTag s = .ok (tag, rest)) : Advances s rest := by
  unfold readStartTag at h
  split at h
  · cases h
  · rename_i hname
    split at h
    · cases h
    · rename_i hparts
      cases h
      exact (readTagName_advances hname).trans_suffix (readParts_advances hparts).suffix

theorem readEndTag_advances (h : readEndTag s = .ok (name, rest)) : Advances s rest := by
  have hs : ((skipSpace s).dropWhile isTagChar).dropWhile (· ≠ '>') <:+ s :=
    ((List.dropWhile_suffix _).trans (List.dropWhile_suffix _)).trans (skipSpace_suffix s)
  unfold readEndTag at h
  dsimp only at h
  split at h
  · cases h
  · rename_i hd
    cases h
    rw [hd] at hs
    exact .of_suffix_left hs (.of_suffix_tail List.suffix_rfl)

theorem skipComment?_advances (h : skipComment? s = some rest) : Advances s rest := by
  fun_induction skipComment? s with
  | case1 s =>
    cases h
    exact ⟨['-', '-', '>'], List.cons_ne_nil _ _, rfl⟩
  | case2 c s hend ih => exact .of_suffix_tail (ih h).suffix
  | case3 => cases h

theorem skipDeclaration?_advances {quote : Option Char} (h : skipDeclaration? quote s = some rest) :
    Advances s rest := by
  induction s generalizing quote with
  | nil => cases h
  | cons c s ih =>
    unfold skipDeclaration? at h
    split at h
    · exact .of_suffix_tail (ih h).suffix
    · split at h
      · cases h
        exact .of_suffix_tail List.suffix_rfl
      · exact .of_suffix_tail (ih h).suffix

theorem takeRawText?_suffix {tag taken : List Char} (h : takeRawText? tag s = some (taken, rest)) :
    rest <:+ s := by
  induction s generalizing taken with
  | nil => cases h
  | cons c s ih =>
    unfold takeRawText? at h
    split at h
    · cases h
      exact List.suffix_rfl
    · obtain ⟨⟨taken', rest'⟩, h', he⟩ := Option.map_eq_some_iff.1 h
      cases he
      exact (ih h').trans (List.suffix_cons c s)

theorem readContent_suffix (h : tag.readContent s = .ok (token, rest)) : rest <:+ s := by
  unfold StartTag.readContent at h
  split at h
  · cases h
    exact List.suffix_rfl
  · split at h
    · split at h
      · cases h
      · rename_i hraw
        split at h
        · cases h
        · rename_i hend
          cases h
          exact ((readEndTag_advances hend).suffix.trans (List.drop_suffix 2 _)).trans
            (takeRawText?_suffix hraw)
    · split at h <;> (cases h; exact List.suffix_rfl)

theorem readElement_advances (h : Token.readElement s = .ok (token, rest)) : Advances s rest := by
  unfold Token.readElement at h
  split at h
  · cases h
  · rename_i htag
    exact (readStartTag_advances htag).trans_suffix (readContent_suffix h)

/-- A turn over the tokens of a text goes on. -/
theorem next_advances {token : Option Token} (hs : s ≠ [])
    (h : Token.next s = .ok (token, rest)) : Advances s rest := by
  unfold Token.next at h
  split at h
  · split at h
    · cases h
    · rename_i hcomment
      cases h
      exact .of_suffix_left (List.suffix_append ['<', '!', '-', '-'] _)
        (skipComment?_advances hcomment)
  · split at h
    · cases h
    · rename_i hend
      cases h
      exact .of_suffix_left (List.suffix_append ['<', '/'] _) (readEndTag_advances hend)
  · split at h
    · cases h
    · rename_i hdeclaration
      cases h
      exact .of_suffix_left (List.suffix_append ['<', '!'] _)
        (skipDeclaration?_advances hdeclaration)
  · split at h
    · cases h
    · rename_i helement
      cases h
      exact .of_suffix_left (List.suffix_cons '<' _) (readElement_advances helement)
  · rename_i hstart
    cases h
    cases s with
    | nil => exact absurd rfl hs
    | cons c s =>
      have hc : c ≠ '<' := fun hc => hstart s (hc ▸ rfl)
      rw [List.dropWhile_cons_of_pos (by simpa using hc)]
      exact .of_suffix_tail (List.dropWhile_suffix _)

end

/-! ## Texts -/

/-- The tokens of a text in order, or the first fault: the loop of `parse_html`. -/
def Token.scan (s : List Char) : Except MarkupFault (List Token) :=
  if _hs : s = [] then .ok []
  else match _h : Token.next s with
    | .error fault => .error fault
    | .ok (token, rest) =>
      match Token.scan rest with
      | .error fault => .error fault
      | .ok tokens => .ok (token.toList ++ tokens)
termination_by s.length
decreasing_by exact (next_advances _hs _h).length_lt

end FormRules.Markup
