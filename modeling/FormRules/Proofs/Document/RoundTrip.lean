import FormRules.Proofs.Document.Outline
import FormRules.Proofs.Markup.Reading

/-!
# The round trip of markup

A document that is built from the markup of a forest is that forest again. The invariant of building
is that the tokens of a forest leave the open elements as they were and add its nodes, and nothing
else, under the innermost of them.

* `isSome_closeOption?`, `closeImplied_of_not_closes`: what a start tag closes, in terms of the tags
  around it.
* `Forest.plant`, `foldl_push`: the nodes that the tokens of a forest add.
* `ofHtml_write`: the round trip.
-/

namespace FormRules

open Markup Text

namespace Builder

/-! ## Implied end tags -/

/-- There is an option or group to close when one of them is met before what they stand in. -/
theorem isSome_closeOption? (group : Bool) (stack : List (String × Nat)) :
    (closeOption? group stack).isSome ↔
      Meets (if group then ["option", "optgroup"] else ["option"])
        (if group then ["select", "datalist"] else ["optgroup", "select", "datalist"])
        (stack.map Prod.fst) := by
  induction stack with
  | nil =>
    rw [closeOption?, List.map_nil]
    exact iff_of_false Bool.false_ne_true (not_meets_nil _ _)
  | cons entry outer ih =>
    obtain ⟨tag, n⟩ := entry
    rw [closeOption?, List.map_cons, meets_cons, ← ih]
    by_cases ho : tag = "option"
    · cases group <;> simp [ho]
    · by_cases hg : tag = "optgroup"
      · cases group <;> simp [hg]
      · by_cases hs : tag = "select" ∨ tag = "datalist"
        · rcases hs with rfl | rfl <;> cases group <;> simp
        · rw [if_neg ho, if_neg hg, if_neg hs]
          rw [not_or] at hs
          cases group <;> simp [ho, hg, hs]

/-- A start tag that closes no element around it leaves the stack. -/
theorem closeImplied_of_not_closes {tag : String} {stack : List (String × Nat)}
    (h : ¬ Closes tag (stack.map Prod.fst)) : closeImplied tag stack = stack := by
  rw [Closes, not_or, not_and, not_and] at h
  have hnone : ∀ group : Bool, ¬ (closeOption? group stack).isSome →
      (closeOption? group stack).getD stack = stack := by
    intro group hg
    rw [Option.not_isSome_iff_eq_none.1 hg]
    rfl
  unfold closeImplied
  split
  · rename_i htag
    rcases htag with rfl | rfl
    · refine hnone _ fun hsome => h.1 rfl ?_
      exact (isSome_closeOption? false stack).1 hsome
    · refine hnone _ fun hsome => h.2 rfl ?_
      exact (isSome_closeOption? true stack).1 hsome
  · rfl

theorem addElement_of_not_closes {tag : String} (attributes : Attributes) {b : Builder}
    (h : ¬ Closes tag (b.stack.map Prod.fst)) :
    b.addElement tag attributes =
      ⟨b.document.addElement b.innermost (.ofTag tag attributes), b.stack⟩ := by
  rw [addElement, closeImplied_of_not_closes h]

/-- The end tag of the innermost open element closes it alone. -/
theorem closeNamed_cons (tag : String) (n : Nat) (stack : List (String × Nat)) :
    closeNamed tag ((tag, n) :: stack) = stack := by
  rw [closeNamed, List.dropWhile_cons_of_neg (by simp)]

end Builder

/-! ## Planting -/

theorem Document.size_addText (p : Nat) (s : String) (d : Document) :
    (d.addText p s).size = d.size + 1 := Array.size_push ..

theorem Document.size_addElement (p : Nat) (e : Element) (d : Document) :
    (d.addElement p e).size = d.size + 1 := Array.size_push ..

namespace Markup.Forest

/-- A document with a forest added under a node. -/
def plant : Forest → Nat → Document → Document
  | nil, _, d => d
  | text s rest, p, d => rest.plant p (d.addText p s)
  | element tag attributes children rest, p, d =>
    rest.plant p (children.plant d.size (d.addElement p (.ofTag tag attributes)))

/-- The nodes of a forest under a node, the first with the number `n`. -/
def nodes : Forest → Nat → Nat → List Node
  | nil, _, _ => []
  | text s rest, p, n => ⟨some p, .text s⟩ :: rest.nodes p (n + 1)
  | element tag attributes children rest, p, n =>
    ⟨some p, .element (.ofTag tag attributes)⟩ ::
      (children.nodes n (n + 1) ++ rest.nodes p (n + 1 + children.size))

theorem length_nodes (F : Forest) (p n : Nat) : (F.nodes p n).length = F.size := by
  induction F generalizing p n with
  | nil => rfl
  | text s rest ih => rw [nodes, List.length_cons, ih, size]
  | element tag attributes children rest ihc ih =>
    rw [nodes, List.length_cons, List.length_append, ihc, ih, size]

theorem map_outline_nodes (F : Forest) (p n : Nat) :
    (F.nodes p n).map Node.outline = F.nodes p n := by
  induction F generalizing p n with
  | nil => rfl
  | text s rest ih =>
    rw [nodes, List.map_cons, ih]
    rfl
  | element tag attributes children rest ihc ih =>
    rw [nodes, List.map_cons, List.map_append, ihc, ih]
    rfl

theorem nodes_plant (F : Forest) (p : Nat) (d : Document) :
    (F.plant p d).nodes.toList = d.nodes.toList ++ F.nodes p d.size := by
  induction F generalizing p d with
  | nil => rw [plant, nodes, List.append_nil]
  | text s rest ih =>
    rw [plant, ih, Document.size_addText, nodes]
    simp [Document.addText, Document.addNode]
  | element tag attributes children rest ihc ih =>
    have hinner := ihc d.size (d.addElement p (.ofTag tag attributes))
    have hsize : (children.plant d.size (d.addElement p (.ofTag tag attributes))).size =
        d.size + 1 + children.size := by
      rw [Document.size, ← Array.length_toList, hinner, List.length_append, length_nodes,
        Array.length_toList, ← Document.size, Document.size_addElement]
    rw [plant, ih, hsize, hinner, Document.size_addElement, nodes]
    simp [Document.addElement, Document.addNode]

/-- The text of a whole element becomes the one child of the element. -/
theorem push_whole {tag : String} (attributes : Attributes) {children : Forest} {b : Builder}
    (hcloses : ¬ Closes tag (b.stack.map Prod.fst)) (hplain : children.isPlain)
    (hchildren : children.Writable) :
    b.push (.whole tag attributes (String.ofList children.body)) =
      ⟨children.plant b.document.size
        (b.document.addElement b.innermost (.ofTag tag attributes)), b.stack⟩ := by
  rcases eq_of_isPlain hplain with rfl | ⟨t, rfl⟩
  · rw [Builder.push, body, if_pos rfl, Builder.addElement_of_not_closes attributes hcloses, plant]
  · have ht : t ≠ "" := hchildren.1
    rw [body, body, List.append_nil, String.ofList_toList, Builder.push, if_neg ht,
      Builder.addElement_of_not_closes attributes hcloses, plant, plant]
    simp only [Document.size_addElement, Nat.add_sub_cancel]

/-- A start tag opens the element that it adds under the innermost open element. -/
theorem push_start {tag : String} (attributes : Attributes) {b : Builder}
    (hcloses : ¬ Closes tag (b.stack.map Prod.fst)) :
    b.push (.start tag attributes) =
      ⟨b.document.addElement b.innermost (.ofTag tag attributes),
        (tag, b.document.size) :: b.stack⟩ := by
  rw [Builder.push, Builder.addElement_of_not_closes attributes hcloses]
  simp only [Document.size_addElement, Nat.add_sub_cancel]

/-- **The invariant of building.** The tokens of a forest add it under the innermost open element
and leave the stack. -/
theorem foldl_push {F : Forest} (hF : F.Writable) (b : Builder)
    (hplaced : F.Placed (b.stack.map Prod.fst)) :
    F.tokens.foldl Builder.push b = ⟨F.plant b.innermost b.document, b.stack⟩ := by
  induction F generalizing b with
  | nil => rfl
  | text s rest ih =>
    obtain ⟨-, -, hrest⟩ := hF
    rw [tokens, List.foldl_cons, ih hrest (b.push (.text s)) hplaced]
    rfl
  | element tag attributes children rest ihc ih =>
    obtain ⟨-, -, hfits, hchildren, hrest⟩ := hF
    obtain ⟨hcloses, hinside, hbehind⟩ := hplaced
    by_cases hwhole : tag ∈ voidTags ∨ IsRawText tag
    · have hplain : children.isPlain := by
        rcases hwhole with hvoid | hraw
        · rw [hfits.1 hvoid, isPlain]
        · exact hfits.2.1 hraw
      rw [tokens, if_pos hwhole, List.foldl_cons, push_whole attributes hcloses hplain hchildren]
      exact ih hrest _ hbehind
    · -- Inside, the element itself is the innermost open one; its end tag then closes it alone.
      have hinner := ihc hchildren ⟨b.document.addElement b.innermost (.ofTag tag attributes),
        (tag, b.document.size) :: b.stack⟩ hinside
      rw [tokens, if_neg hwhole, List.foldl_cons, List.foldl_append, push_start attributes hcloses,
        hinner, List.foldl_cons, Builder.push]
      simp only [Builder.closeNamed_cons]
      exact ih hrest _ hbehind

end Markup.Forest

namespace Document

theorem getElem?_outline_append {d : Document} {node : Node} {before behind : List Node}
    (h : d.outline = before ++ node :: behind) : d.outline[before.length]? = some node := by
  rw [h, List.getElem?_append_right (Nat.le_refl _), Nat.sub_self, List.getElem?_cons_zero]

/-- Nodes that stand in the outline one after the other lay their forest out. -/
theorem laid_of_outline {d : Document} {F : Forest} {p n : Nat} (before behind : List Node)
    (hn : before.length = n) (h : d.outline = before ++ (F.nodes p n ++ behind)) :
    d.Laid F p n := by
  -- What is laid out already goes over to `before`, whose length is the number of the next node.
  induction F generalizing p n before behind with
  | nil => trivial
  | text s rest ih =>
    rw [Forest.nodes, List.cons_append] at h
    refine ⟨hn ▸ getElem?_outline_append h, ih (before ++ [⟨some p, .text s⟩]) behind ?_ ?_⟩
    · rw [List.length_append, List.length_singleton, hn]
    · rw [h, List.append_assoc, List.singleton_append]
  | element tag attributes children rest ihc ih =>
    let node : Node := ⟨some p, .element (.ofTag tag attributes)⟩
    rw [Forest.nodes, List.cons_append] at h
    refine ⟨hn ▸ getElem?_outline_append h,
      ihc (before ++ [node]) (rest.nodes p (n + 1 + children.size) ++ behind) ?_ ?_,
      ih (before ++ node :: children.nodes n (n + 1)) behind ?_ ?_⟩
    · rw [List.length_append, List.length_singleton, hn]
    · rw [h, List.append_assoc, List.append_assoc, List.singleton_append]
    · rw [List.length_append, List.length_cons, Forest.length_nodes, hn]
      omega
    · rw [h, List.append_assoc, List.append_assoc, List.cons_append]

end Document

/-! ## The round trip -/

/-- **The round trip of markup.** Of a forest that can be written and in which no start tag closes
an element around it, the markup is read without a fault, and what is read is the forest, its nodes
numbered from 1 on in document order. -/
theorem Document.ofHtml_write (F : Forest) (hF : F.Writable) (hplaced : F.Placed []) :
    ∃ d, ofHtml F.write = .ok d ∧ d.forest root = F ∧ d.size = F.size + 1 ∧
      d.below root = List.range' 1 F.size := by
  have hscan : Token.scan F.write.toList = .ok F.tokens := by
    have hnil : Token.scan [] = .ok [] := by rw [Token.scan, dif_pos rfl]
    have h := Forest.scan_chars hF (stops_nil _) hnil
    rw [List.append_nil, List.append_nil] at h
    rw [Forest.write, String.toList_ofList]
    exact h
  have hbuilt := Forest.foldl_push hF {} hplaced
  have houtline : (ofTokens F.tokens).outline = [⟨none, .root⟩] ++ (F.nodes root 1 ++ []) := by
    rw [ofTokens, outline_settleRadios, outline_fillTextAreas, hbuilt, outline,
      Forest.nodes_plant, List.map_append, Forest.map_outline_nodes, List.append_nil]
    rfl
  -- Only the outline counts for what is read back, so finishing plays no part any more.
  have hsize : (ofTokens F.tokens).size = F.size + 1 := by
    rw [← length_outline, houtline, List.append_nil, List.length_append, Forest.length_nodes,
      List.length_singleton, Nat.add_comm]
  obtain ⟨hforest, hbelow⟩ := read_of_laid (laid_of_outline [⟨none, .root⟩] [] rfl houtline) hsize
  exact ⟨ofTokens F.tokens, by rw [ofHtml, hscan], hforest, hsize, hbelow⟩

/-- A page of texts, references, a selection, a text area, a void element and a script. -/
def mixedPage : Forest :=
  .text "a & <b>" <|
  .element "form" (.ofList [("id", "f"), ("data-validate", "regexp:\"&\"")])
    (.element "select" ∅
      (.element "option" ∅ (.text "A" .nil) <|
        .element "optgroup" ∅ (.element "option" ∅ .nil .nil) .nil) <|
      .element "textarea" ∅ (.text "\n<hi>" .nil) <|
      .element "br" ∅ .nil <|
      .element "script" ∅ (.text "if (a < b && c) '<" .nil) .nil) <|
  .text "tail" .nil

/-- The page is read back as it was written. -/
theorem ofHtml_mixedPage :
    mixedPage.Writable ∧ mixedPage.Placed [] ∧
      ∃ d, Document.ofHtml mixedPage.write = .ok d ∧ d.forest Document.root = mixedPage := by
  have hwritable : mixedPage.Writable := by decide +kernel
  have hplaced : mixedPage.Placed [] := by decide +kernel
  obtain ⟨d, hd, hforest, -⟩ := Document.ofHtml_write mixedPage hwritable hplaced
  exact ⟨hwritable, hplaced, d, hd, hforest⟩

end FormRules
