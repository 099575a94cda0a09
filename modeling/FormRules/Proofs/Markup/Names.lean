import FormRules.Document
import FormRules.Proofs.Markup.Faults
import FormRules.Proofs.Markup.RawText

/-!
# The names of attributes

The reader of start tags writes the names of attributes in lower case, so all tokens of a text have
names of attributes in lower case only.

* `lowerText_lowerText`: a text in lower case stays as it is.
* `lowerText_append_eq_iff`: the parts of a text in lower case are in lower case.
* `Attributes.Lower`: names in lower case; `lower_of_readParts` for those of a start tag.
* `Token.forall_mem_of_scan`: what reading one token gives, all tokens of a text have.
* `Token.lower_of_scan`: the names of the attributes of all tokens of a text.
-/

namespace FormRules

/-! ## Lower case -/

theorem Markup.toLower_toLower (c : Char) : c.toLower.toLower = c.toLower := by
  apply toLower_of_not_isUpper
  by_cases hc : c.isUpper = true
  · have hlower : c.toLower.isLower = true := isLower_toLower hc
    intro hupper
    -- The codes of the small letters come behind those of the capitals.
    have hge : 97 ≤ c.toLower.val.toNat :=
      UInt32.le_iff_toNat_le.1 (of_decide_eq_true (Bool.and_eq_true_iff.1 hlower).1)
    have hle : c.toLower.val.toNat ≤ 90 :=
      UInt32.le_iff_toNat_le.1 (of_decide_eq_true hupper : _ ∧ _).2
    omega
  · rwa [toLower_of_not_isUpper hc]

theorem lowerText_lowerText (s : String) : lowerText (lowerText s) = lowerText s := by
  have hlower : ∀ cs, Markup.lower (Markup.lower cs) = Markup.lower cs := by
    intro cs
    rw [Markup.lower, Markup.lower, List.map_map]
    exact List.map_congr_left fun c _ => Markup.toLower_toLower c
  rw [lowerText, lowerText, String.toList_ofList, hlower]

theorem lowerText_append (s t : String) : lowerText (s ++ t) = lowerText s ++ lowerText t := by
  simp only [lowerText, Markup.lower, String.toList_append, List.map_append, String.ofList_append]

theorem lowerText_append_eq_iff {s t : String} :
    lowerText (s ++ t) = s ++ t ↔ lowerText s = s ∧ lowerText t = t := by
  rw [lowerText_append]
  constructor
  · intro h
    have hchars := congrArg String.toList h
    rw [String.toList_append, String.toList_append] at hchars
    have hlength : (lowerText s).toList.length = s.toList.length := by
      rw [lowerText, String.toList_ofList, Markup.lower, List.length_map]
    obtain ⟨hs, ht⟩ := List.append_inj hchars hlength
    exact ⟨String.toList_injective hs, String.toList_injective ht⟩
  · rintro ⟨hs, ht⟩
    rw [hs, ht]

namespace Markup

/-! ## Start tags -/

/-- Attributes with names in lower case only. -/
def Attributes.Lower (attributes : Attributes) : Prop :=
  ∀ name value, attributes.get? name = some value → lowerText name = name

theorem Attributes.lower_empty : Attributes.Lower ∅ := by
  intro name value h
  cases h

theorem Attributes.Lower.insertNew {attributes : Attributes} (h : attributes.Lower)
    {name : String} (hname : lowerText name = name) (value : String) :
    Attributes.Lower (attributes.insertNew name value) := by
  intro name' value' hget
  rw [Dict.get?_insertNew] at hget
  split at hget
  · rename_i hnew
    rw [hnew.1]
    exact hname
  · exact h name' value' hget

theorem lowerText_of_nextPart {tag : String} {s rest : List Char} {name value : String}
    (h : nextPart tag s = .ok (.attribute name value, rest)) : lowerText name = name := by
  have hlower : ∀ cs, lowerText (String.ofList (lower cs)) = String.ofList (lower cs) := by
    intro cs
    have hcs : String.ofList (lower cs) = lowerText (String.ofList cs) := by
      rw [lowerText, String.toList_ofList]
    rw [hcs, lowerText_lowerText]
  unfold nextPart at h
  split at h
  · cases h
  · cases h
  · cases h
  · split at h
    · split at h
      · cases h
      · cases h
        exact hlower _
    · cases h

theorem lower_of_readParts {tag : String} {attributes attributes' : Attributes}
    {s rest : List Char} {selfClosing : Bool}
    (h : readParts tag attributes s = .ok (attributes', selfClosing, rest))
    (ha : attributes.Lower) : attributes'.Lower := by
  fun_induction readParts tag attributes s with
  | case1 => cases h
  | case2 attributes s selfClosing' rest' hp =>
    cases h
    exact ha
  | case3 attributes s name value rest' hp ih =>
    exact ih h (ha.insertNew (lowerText_of_nextPart hp) value)
  | case4 attributes s rest' hp ih => exact ih h ha

theorem lower_of_readStartTag {s rest : List Char} {tag : StartTag}
    (h : readStartTag s = .ok (tag, rest)) : tag.attributes.Lower := by
  unfold readStartTag at h
  split at h
  · cases h
  · split at h
    · cases h
    · rename_i hparts
      cases h
      exact lower_of_readParts hparts Attributes.lower_empty

/-! ## Tokens -/

/-- The attributes of the element that a token adds, if it adds one. -/
def Token.attributes? : Token → Option Attributes
  | .text _ => none
  | .start _ attributes => some attributes
  | .whole _ attributes _ => some attributes
  | .stop _ => none

/-- The names of the attributes of a token are in lower case. -/
def Token.Lower (token : Token) : Prop :=
  ∀ attributes, token.attributes? = some attributes → attributes.Lower

/-- All elements that can come of a start tag have its attributes. -/
theorem attributes?_of_readContent {s rest : List Char} {tag : StartTag} {token : Token}
    (h : tag.readContent s = .ok (token, rest)) : token.attributes? = some tag.attributes := by
  unfold StartTag.readContent at h
  split at h
  · cases h
    rfl
  · split at h
    · split at h
      · cases h
      · split at h
        · cases h
        · cases h
          rfl
    · split at h <;> (cases h; rfl)

theorem Token.lower_of_readElement {s rest : List Char} {token : Token}
    (h : Token.readElement s = .ok (token, rest)) : token.Lower := by
  unfold Token.readElement at h
  split at h
  · cases h
  · rename_i tag s' htag
    intro attributes hget
    rw [attributes?_of_readContent h] at hget
    cases hget
    exact lower_of_readStartTag htag

theorem Token.lower_of_next {s rest : List Char} {token : Token}
    (h : Token.next s = .ok (some token, rest)) : token.Lower := by
  have hnone : token.attributes? = none → token.Lower := by
    intro hnone attributes hget
    rw [hnone] at hget
    cases hget
  unfold Token.next at h
  split at h
  · split at h <;> cases h
  · split at h
    · cases h
    · cases h
      exact hnone rfl
  · split at h <;> cases h
  · split at h
    · cases h
    · rename_i helement
      cases h
      exact lower_of_readElement helement
  · cases h
    exact hnone rfl

/-- What every token has that is read at some front, all tokens of a text have. -/
theorem Token.forall_mem_of_scan {P : Token → Prop}
    (hnext : ∀ s token rest, Token.next s = .ok (some token, rest) → P token)
    {s : List Char} {tokens : List Token} (h : Token.scan s = .ok tokens) :
    ∀ token ∈ tokens, P token := by
  induction hn : s.length using Nat.strongRecOn generalizing s tokens with
  | ind n ih =>
    subst hn
    by_cases hs : s = []
    · rw [Token.scan, dif_pos hs] at h
      cases h
      exact fun token hmem => absurd hmem List.not_mem_nil
    · rw [Token.scan_eq hs] at h
      cases hread : Token.next s with
      | error fault =>
        rw [hread] at h
        cases h
      | ok result =>
        obtain ⟨first, rest⟩ := result
        rw [hread] at h
        dsimp only at h
        cases hrest : Token.scan rest with
        | error fault =>
          rw [hrest] at h
          cases h
        | ok later =>
          rw [hrest] at h
          cases h
          intro token hmem
          rw [List.mem_append, Option.mem_toList] at hmem
          obtain rfl | hmem := hmem
          · exact hnext s token rest hread
          · exact ih rest.length (next_advances hs hread).length_lt hrest rfl token hmem

theorem Token.lower_of_scan {s : List Char} {tokens : List Token}
    (h : Token.scan s = .ok tokens) : ∀ token ∈ tokens, token.Lower :=
  Token.forall_mem_of_scan (fun _ _ _ => Token.lower_of_next) h

end Markup

end FormRules
