import FormRules.Markup.Token

/-!
# Faults of markup

The faults that reading markup can meet are those of its text: a comment, a declaration, a tag or a
quote that does not end, a tag without a name, an attribute without a value, an element without its
end tag. The others belong to trees and to changes of documents.

* `MarkupFault.IsLexical`: the faults of a text.
* `Token.scan_eq`: reading the first token and then the rest.
* `isLexical_of_scan`: reading tokens meets no other faults.
-/

namespace FormRules

/-- Whether a fault is one of the text of markup, and not of a tree or of a change. -/
def MarkupFault.IsLexical : MarkupFault → Prop
  | missingParent => False
  | notAnElement _ => False
  | _ => True

namespace Markup

variable {tag : String} {s : List Char} {fault : MarkupFault}

theorem isLexical_of_readValue (h : readValue s = .error fault) : fault.IsLexical := by
  unfold readValue at h
  split at h
  · cases h
    trivial
  · split at h
    · split at h
      · cases h
        trivial
      · cases h
    · cases h

theorem isLexical_of_readAssigned (h : readAssigned s = .error fault) : fault.IsLexical := by
  unfold readAssigned at h
  split at h
  · exact isLexical_of_readValue h
  · cases h

theorem isLexical_of_nextPart (h : nextPart tag s = .error fault) : fault.IsLexical := by
  unfold nextPart at h
  split at h
  · cases h
    trivial
  · cases h
  · cases h
  · split at h
    · split at h
      · rename_i hvalue
        cases h
        exact isLexical_of_readAssigned hvalue
      · cases h
    · cases h

theorem isLexical_of_readParts {attributes : Attributes}
    (h : readParts tag attributes s = .error fault) : fault.IsLexical := by
  fun_induction readParts tag attributes s with
  | case1 attributes s fault' hp =>
    cases h
    exact isLexical_of_nextPart hp
  | case2 => cases h
  | case3 attributes s name value rest hp ih => exact ih h
  | case4 attributes s rest hp ih => exact ih h

theorem isLexical_of_readTagName (h : readTagName s = .error fault) : fault.IsLexical := by
  unfold readTagName at h
  dsimp only at h
  split at h
  · cases h
    trivial
  · cases h

theorem isLexical_of_readStartTag (h : readStartTag s = .error fault) : fault.IsLexical := by
  unfold readStartTag at h
  split at h
  · rename_i hname
    cases h
    exact isLexical_of_readTagName hname
  · split at h
    · rename_i hparts
      cases h
      exact isLexical_of_readParts hparts
    · cases h

theorem isLexical_of_readEndTag (h : readEndTag s = .error fault) : fault.IsLexical := by
  unfold readEndTag at h
  dsimp only at h
  split at h
  · cases h
    trivial
  · cases h

theorem isLexical_of_readContent {tag : StartTag} (h : tag.readContent s = .error fault) :
    fault.IsLexical := by
  unfold StartTag.readContent at h
  split at h
  · cases h
  · split at h
    · split at h
      · cases h
        trivial
      · split at h
        · rename_i hend
          cases h
          exact isLexical_of_readEndTag hend
        · cases h
    · split at h <;> cases h

theorem isLexical_of_readElement (h : Token.readElement s = .error fault) : fault.IsLexical := by
  unfold Token.readElement at h
  split at h
  · rename_i htag
    cases h
    exact isLexical_of_readStartTag htag
  · exact isLexical_of_readContent h

theorem isLexical_of_next (h : Token.next s = .error fault) : fault.IsLexical := by
  unfold Token.next at h
  split at h
  · split at h
    · cases h
      trivial
    · cases h
  · split at h
    · rename_i hend
      cases h
      exact isLexical_of_readEndTag hend
    · cases h
  · split at h
    · cases h
      trivial
    · cases h
  · split at h
    · rename_i helement
      cases h
      exact isLexical_of_readElement helement
    · cases h
  · cases h

theorem Token.scan_eq {text : List Char} (ht : text ≠ []) :
    Token.scan text =
      match Token.next text with
      | .error fault => .error fault
      | .ok (token, rest) =>
        match Token.scan rest with
        | .error fault => .error fault
        | .ok tokens => .ok (token.toList ++ tokens) := by
  rw [Token.scan, dif_neg ht]
  split
  · rename_i h
    rw [h]
  · rename_i token rest h
    cases hscan : Token.scan rest <;> simp only [h, hscan]

/-- Reading tokens meets no other faults than those of the text. -/
theorem isLexical_of_scan (h : Token.scan s = .error fault) : fault.IsLexical := by
  induction hn : s.length using Nat.strongRecOn generalizing s with
  | ind n ih =>
    subst hn
    by_cases hs : s = []
    · rw [Token.scan, dif_pos hs] at h
      cases h
    · rw [Token.scan_eq hs] at h
      cases hnext : Token.next s with
      | error fault' =>
        rw [hnext] at h
        cases h
        exact isLexical_of_next hnext
      | ok result =>
        obtain ⟨token, rest⟩ := result
        rw [hnext] at h
        dsimp only at h
        cases hrest : Token.scan rest with
        | error fault' =>
          rw [hrest] at h
          cases h
          exact ih rest.length (next_advances hs hnext).length_lt hrest rfl
        | ok tokens =>
          rw [hrest] at h
          cases h

end Markup

end FormRules
