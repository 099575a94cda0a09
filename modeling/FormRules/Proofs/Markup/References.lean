import FormRules.Proofs.Markup.Reading
import FormRules.Proofs.Text.Numerals

/-!
# Writing characters as references

A character can stand in markup for itself, unless it is an ampersand, or be written as a reference:
by the number of its code point, in decimal or in hexadecimal, or by its name if it has one. A
reference ends at its semicolon, and so does the run that the decoder takes. So the decoder gives
back every text, whichever way each of its characters is written, and whatever stands around them.

* `Writes`: the ways to write a character.
* `isRunChar_of_isNumeral`, `referredChar?_of_mem`: numbers and names are runs.
* `Writes.decode_append`: a character that was written is read, and the rest is left.
* `decode_of_writes`: so is a whole text.
-/

namespace FormRules.Markup

open Text (IsNumeral)

/-- The ways to write a character in markup. -/
inductive Writes (c : Char) : List Char → Prop
  /-- The character itself. -/
  | literal (h : c ≠ '&') : Writes c [c]
  /-- Its code point in decimal, behind any zeros. -/
  | decimal {digits : List Char} (h : IsNumeral 10 c.toNat digits) :
    Writes c ('&' :: '#' :: (digits ++ [';']))
  /-- Its code point in hexadecimal, behind any zeros and with letters in either case. -/
  | hexadecimal {mark : Char} {digits : List Char} (hmark : mark = 'x' ∨ mark = 'X')
    (h : IsNumeral 16 c.toNat digits) : Writes c ('&' :: '#' :: mark :: (digits ++ [';']))
  /-- Its name. -/
  | named {name : String} (h : (name, c) ∈ characterNames) :
    Writes c ('&' :: (name.toList ++ [';']))

/-! ## Runs -/

variable {c : Char} {radix n : Nat} {digits : List Char}

theorem charOf?_toNat (c : Char) : Text.charOf? c.toNat = some c := by
  have hvalid : c.toNat.isValidChar := c.valid
  rw [Text.charOf?, dif_pos hvalid]
  rfl

theorem charOfDigits?_of_isNumeral (h : IsNumeral radix c.toNat digits) (hradix : 1 < radix)
    (h16 : radix ≤ 16) : charOfDigits? radix digits = some c := by
  rw [charOfDigits?, if_neg h.ne_nil, h.number?_eq hradix h16, Option.bind_some, charOf?_toNat]

theorem isAlphanum_of_digit? {d : Nat} (h : Text.digit? radix c = some d) :
    c.isAlphanum = true := by
  change (c.isUpper || c.isLower || c.isDigit) = true
  rw [Bool.or_eq_true, Bool.or_eq_true]
  rcases Text.range_of_digit? h with hc | hc | hc
  · exact .inr (Text.isDigit_iff.2 hc)
  · exact .inl (.inr (Bool.and_eq_true_iff.2 ⟨decide_eq_true hc.1, decide_eq_true hc.2⟩))
  · exact .inl (.inl (decide_eq_true hc))

/-- The number of a code point is a run. -/
theorem isRunChar_of_isNumeral (h : IsNumeral radix n digits) (hradix : 1 < radix)
    (h16 : radix ≤ 16) : digits.all isRunChar = true := by
  rw [List.all_eq_true]
  intro c hc
  obtain ⟨d, hd⟩ := h.exists_digit? hradix h16 c hc
  exact Bool.or_eq_true_iff.2 (.inl (isAlphanum_of_digit? hd))

/-- A decimal number does not begin with the mark of a hexadecimal one. -/
theorem numberedChar?_of_decimal (h : IsNumeral 10 c.toNat digits) :
    numberedChar? digits = some c := by
  have hread : charOfDigits? 10 digits = some c :=
    charOfDigits?_of_isNumeral h (by omega) (by omega)
  have hdigits := h.exists_digit? (by omega) (by omega)
  cases digits with
  | nil => exact absurd rfl h.ne_nil
  | cons mark rest =>
    obtain ⟨d, hd⟩ := hdigits mark List.mem_cons_self
    have hmark : ¬ (mark = 'x' ∨ mark = 'X') := by
      rintro (rfl | rfl)
      · cases hd
      · cases hd
    rw [numberedChar?, if_neg hmark, hread]

/-- The names are runs, and they refer to their characters. -/
theorem referredChar?_of_mem {name : String} (h : (name, c) ∈ characterNames) :
    name.toList.all isRunChar = true ∧ referredChar? name.toList = some c := by
  have hnames : ∀ entry ∈ characterNames, entry.1.toList.all isRunChar = true ∧
      referredChar? entry.1.toList = some entry.2 := by decide +kernel
  exact hnames (name, c) h

/-! ## Texts -/

/-- A character that was written is read, and what stands behind it is left. -/
theorem Writes.decode_append {piece : List Char} (h : Writes c piece) (s : List Char) :
    decode (piece ++ s) = c :: decode s := by
  cases h with
  | literal hc => exact decode_cons_of_ne hc s
  | @decimal digits h =>
    have hdigits : digits.all isRunChar = true := isRunChar_of_isNumeral h (by omega) (by omega)
    have hrun : ('#' :: digits).all isRunChar = true := hdigits
    have hread := decode_reference hrun (numberedChar?_of_decimal h) s
    simpa using hread
  | @hexadecimal mark digits hmark h =>
    have hdigits : digits.all isRunChar = true := isRunChar_of_isNumeral h (by omega) (by omega)
    have hrun : ('#' :: mark :: digits).all isRunChar = true := by
      obtain rfl | rfl := hmark
      · exact hdigits
      · exact hdigits
    have hrefers : referredChar? ('#' :: mark :: digits) = some c := by
      rw [referredChar?, numberedChar?, if_pos hmark]
      exact charOfDigits?_of_isNumeral h (by omega) (by omega)
    have hread := decode_reference hrun hrefers s
    simpa using hread
  | @named name h =>
    obtain ⟨hrun, hrefers⟩ := referredChar?_of_mem h
    have hread := decode_reference hrun hrefers s
    simpa using hread

/-- **References.** A text whose characters are written one by one, each in any of the ways that
there are, is decoded to itself. -/
theorem decode_of_writes {v : List Char} {pieces : List (List Char)}
    (h : List.Forall₂ Writes v pieces) : decode pieces.flatten = v := by
  induction h with
  | nil => rw [List.flatten_nil, decode]
  | cons hc _ ih => rw [List.flatten_cons, hc.decode_append, ih]

/-- Two ampersands, a semicolon and a digit: references stand next to each other and in front of
characters with which they could go on. -/
theorem decode_of_writes_crowded :
    List.Forall₂ Writes "&;&0€".toList
      ["&amp;".toList, ";".toList, "&#0038;".toList, "0".toList, "&#X020aC;".toList] ∧
    decode "&amp;;&#0038;0&#X020aC;".toList = "&;&0€".toList := by
  have hwrites : List.Forall₂ Writes "&;&0€".toList
      ["&amp;".toList, ";".toList, "&#0038;".toList, "0".toList, "&#X020aC;".toList] := by
    have hname : ("amp", '&') ∈ characterNames := by decide
    have hampersand : IsNumeral 10 '&'.toNat "0038".toList := ⟨2, by decide⟩
    have heuro : IsNumeral 16 '€'.toNat "020aC".toList := ⟨1, by decide⟩
    exact .cons (.named hname) (.cons (.literal (by decide)) (.cons (.decimal hampersand)
      (.cons (.literal (by decide)) (.cons (.hexadecimal (.inr rfl) heuro) .nil))))
  exact ⟨hwrites, decode_of_writes hwrites⟩

end FormRules.Markup
