import FormRules.Proofs.Document.Guarded

/-!
# The invariant of trees

A document that was read from markup is a tree whose nodes are numbered in document order, and it
stays so whatever is changed in it. Hence lists of elements under a node are in document order, and
no two controls of a form have one key.

* `keyText_injective`: nodes of one key are one node.
* `IsTree`: the tree invariant, by parents, by children, by the walk and by keys.
* `ofHtml_isTree`: the invariant over every text and every run of changes.
-/

namespace FormRules.Document

/-! ## Keys -/

theorem keyText_injective {n m : Nat} (h : keyText n = keyText m) : n = m := by
  have hlist : (keyText n).toList = (keyText m).toList := congrArg String.toList h
  rw [keyText, keyText, String.toList_append, String.toList_append] at hlist
  have hnumber : (toString n).toList = (toString m).toList := List.append_cancel_left hlist
  have hdigits : Nat.toDigits 10 n = Nat.toDigits 10 m := by
    simpa only [Nat.toString_eq_ofList_toDigits, String.toList_ofList] using hnumber
  simpa using congrArg (fun digits => Nat.ofDigitChars 10 digits 0) hdigits

theorem node_of_control? {d : Document} {n : Nat} {c : Control} (h : d.control? n = some c) :
    c.node = n := by
  rw [control?, Option.map_eq_some_iff] at h
  obtain ⟨kind, -, rfl⟩ := h
  rfl

variable {d : Document}

theorem Ordered.pairwise_controlsOf (h : d.Ordered) (n : Nat) :
    (d.controlsOf n).Pairwise (· < ·) :=
  (h.pairwise_descendants n).filter _

/-- No two controls of a form have one key. -/
theorem Ordered.nodup_keys (h : d.Ordered) (n : Nat) :
    ((Form.controls (⟨d, n⟩ : FormNode)).map Field.key).Nodup := by
  show (((d.controlsOf n).filterMap d.control?).map Field.key).Pairwise (· ≠ ·)
  rw [List.pairwise_map, List.pairwise_filterMap]
  apply (h.pairwise_controlsOf n).imp
  intro a b hab x hx y hy hkey
  have hx' : x.node = a := node_of_control? hx
  have hy' : y.node = b := node_of_control? hy
  have hnodes : x.node = y.node := keyText_injective (congrArg FieldKey.text hkey)
  omega

/-! ## The invariant -/

/-- A tree whose nodes are numbered in document order. -/
structure IsTree (d : Document) : Prop where
  /-- The root is the only node without a parent. -/
  root_iff : ∀ n < d.size, d.parent? n = none ↔ n = root
  /-- Every other node has a parent in front of it and is once among its children, and among those
  of no other node. -/
  parent : ∀ n < d.size, n ≠ root → ∃ p < n, d.parent? n = some p ∧ (d.children p).count n = 1 ∧
    ∀ q, q ≠ p → n ∉ d.children q
  /-- The walk from the root meets all nodes, by their numbers. -/
  walk : root :: d.below root = List.range d.size
  /-- The elements under a node are listed by their numbers. -/
  increasing : ∀ x, (d.descendants x).Pairwise (· < ·)
  /-- They are those from which the node is reached by going from parent to parent. -/
  mem_iff : ∀ x n, n ∈ d.descendants x ↔
    d.isElement n = true ∧ Relation.TransGen (fun m p => d.parent? m = some p) n x
  /-- No two controls of a form have one key. -/
  keys : ∀ x, ((Form.controls (⟨d, x⟩ : FormNode)).map Field.key).Nodup

theorem Ordered.parent?_eq_none_iff (h : d.Ordered) {n : Nat} (hn : n < d.size) :
    d.parent? n = none ↔ n = root := by
  constructor
  · intro hnone
    by_contra hroot
    obtain ⟨p, hp⟩ := h.exists_parent? hn hroot
    rw [hnone] at hp
    cases hp
  · rintro rfl
    exact h.parent?_root

theorem Ordered.count_children (h : d.Ordered) {n p : Nat} (hp : d.parent? n = some p) :
    (d.children p).count n = 1 := by
  have hnodup : (d.children p).Nodup := (pairwise_children d p).imp fun hlt => Nat.ne_of_lt hlt
  exact List.count_eq_one_of_mem hnodup (h.mem_children.2 hp)

theorem Ordered.isTree (h : d.Ordered) : d.IsTree where
  root_iff := fun n hn => h.parent?_eq_none_iff hn
  parent := by
    intro n hn hroot
    obtain ⟨p, hp⟩ := h.exists_parent? hn hroot
    refine ⟨p, h.lt_of_parent? hp, hp, h.count_children hp, ?_⟩
    intro q hq hmem
    rw [h.mem_children, hp] at hmem
    exact hq (Option.some.inj hmem).symm
  walk := h.root_cons_below
  increasing := h.pairwise_descendants
  mem_iff := by
    intro x n
    rw [h.mem_descendants, h.mem_ancestors_iff]
  keys := h.nodup_keys

/-- **The invariant of trees.** A document that was read is a tree numbered in document order, and
so it is after any run of changes. What cannot be read is markup with a fault, and the fault is
never that a node has no parent to hang under: the reading that looks for one each time, and notes
the new node as its child, does the same and notes the children that the tree has. -/
theorem ofHtml_isTree (html : String) :
    (∀ d, ofHtml html = .ok d → ∀ changes, (d.run changes).IsTree) ∧
    (∀ e, ofHtml html = .error e → ∃ fault, e = .markup fault ∧ fault ≠ .missingParent) ∧
    ofHtmlGuarded html = (ofHtml html).map fun d => (d, d.children) := by
  refine ⟨?_, ?_, ofHtmlGuarded_eq html⟩
  · intro d hd changes
    exact ((ordered_ofHtml hd).run changes).isTree
  · intro e he
    obtain ⟨fault, rfl, hlexical⟩ := isLexical_of_ofHtml he
    refine ⟨fault, rfl, ?_⟩
    rintro rfl
    exact hlexical

/-- A page with end tags that close nothing and several elements, options without end tags, raw text
and an element that closes itself. -/
def tangledPage : String :=
  "</p><select><option>A<option>B<optgroup><option>C</select><b><i>t</b></i>" ++
    "<textarea>\n<p></textarea><form><input name=a><br/></form>"

/-- The page is a tree after changes, and a page that breaks off in a comment is faulty. -/
theorem isTree_tangledPage :
    (∃ d, ofHtml tangledPage = .ok d ∧ d.size = 17 ∧
      (d.run [.setAttribute 2 "id" "x", .removeAttribute 0 "id", .selectOption 1 "B"]).IsTree) ∧
    ofHtml "<form><!-- " = .error (.markup .unclosedComment) ∧
    ∃ fault, Error.markup .unclosedComment = .markup fault ∧ fault ≠ .missingParent := by
  have hread : (ofHtml tangledPage).toOption.map size = some 17 := by decide +kernel
  have hfault : ofHtml "<form><!-- " = .error (.markup .unclosedComment) := by decide +kernel
  obtain ⟨d, hd, hsize⟩ := exists_of_map_ofHtml hread
  refine ⟨⟨d, hd, hsize, ?_⟩, hfault, (ofHtml_isTree _).2.1 _ hfault⟩
  exact (ofHtml_isTree tangledPage).1 d hd _

end FormRules.Document
