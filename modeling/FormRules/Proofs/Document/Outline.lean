import FormRules.Document.Build
import FormRules.Proofs.Markup.Forest

/-!
# Outlines of documents

The outline of a document is what its markup says: the parents, the texts, the tags and the
attributes, without the values and checked flags that controls have come to. A forest is laid out in
a document when its nodes stand there one after the other in document order, and it can then be read
back from the children of the nodes.

* `Document.outline`: a document with its controls as their start tags made them.
* `outline_fillTextAreas`, `outline_settleRadios`: finishing a document leaves the outline.
* `Document.forest`: what is under a node, read as a forest.
* `Document.Laid`, `read_of_laid`: a forest that is laid out is read back, and its nodes are numbered
  in document order.
-/

namespace FormRules

open Markup (Attributes Forest)

/-- What a node holds, an element as its start tag made it. -/
def Content.outline : Content → Content
  | .element e => .element (.ofTag e.tag e.attributes)
  | content => content

/-- A node, its element as its start tag made it. -/
def Node.outline (node : Node) : Node := { node with content := node.content.outline }

namespace Document

/-- The nodes of a document with their elements as the start tags made them. -/
def outline (d : Document) : List Node := d.nodes.toList.map Node.outline

theorem length_outline (d : Document) : d.outline.length = d.size := by
  rw [outline, List.length_map, Array.length_toList, size]

theorem getElem?_outline (d : Document) (n : Nat) :
    d.outline[n]? = d.nodes[n]?.map Node.outline := by
  rw [outline, List.getElem?_map, Array.getElem?_toList]

theorem parent?_of_outline {d : Document} {n : Nat} {node : Node} (h : d.outline[n]? = some node) :
    d.parent? n = node.parent := by
  rw [getElem?_outline] at h
  obtain ⟨node', hn, rfl⟩ := Option.map_eq_some_iff.1 h
  rw [parent?, hn]
  rfl

theorem content?_of_text {d : Document} {n p : Nat} {s : String}
    (h : d.outline[n]? = some ⟨some p, .text s⟩) : d.content? n = some (.text s) := by
  rw [getElem?_outline] at h
  obtain ⟨⟨parent, content⟩, hn, ho⟩ := Option.map_eq_some_iff.1 h
  rw [content?, hn]
  cases content with
  | text s' => exact congrArg (fun node => some node.content) ho
  | root => cases ho
  | element e => cases ho

theorem content?_of_element {d : Document} {n p : Nat} {tag : String} {attributes : Attributes}
    (h : d.outline[n]? = some ⟨some p, .element (.ofTag tag attributes)⟩) :
    ∃ e, d.content? n = some (.element e) ∧ e.tag = tag ∧ e.attributes = attributes := by
  rw [getElem?_outline] at h
  obtain ⟨⟨parent, content⟩, hn, ho⟩ := Option.map_eq_some_iff.1 h
  rw [content?, hn]
  cases content with
  | root => cases ho
  | text s => cases ho
  | element e =>
    have he := Content.element.inj (Node.mk.inj ho).2
    exact ⟨e, rfl, congrArg Element.tag he, congrArg Element.attributes he⟩

/-! ## Finishing -/

/-- A change of an element that leaves its tag and attributes leaves the outline. -/
theorem outline_modifyElement (n : Nat) (change : Element → Element)
    (h : ∀ e, (change e).tag = e.tag ∧ (change e).attributes = e.attributes) (d : Document) :
    (d.modifyElement n change).outline = d.outline := by
  apply List.ext_getElem?
  intro m
  rw [getElem?_outline, getElem?_outline, modifyElement, Array.getElem?_modify]
  split
  · rw [Option.map_map]
    congr 1
    funext node
    obtain ⟨parent, content⟩ := node
    cases content with
    | root => rfl
    | text s => rfl
    | element e =>
      simp only [Function.comp_apply, Node.outline, Content.outline, (h e).1, (h e).2]
  · rfl

theorem outline_foldl {α : Type} {step : Document → α → Document}
    (h : ∀ d a, (step d a).outline = d.outline) (l : List α) (d : Document) :
    (l.foldl step d).outline = d.outline := by
  induction l generalizing d with
  | nil => rfl
  | cons a l ih => rw [List.foldl_cons, ih, h]

theorem outline_flag (checked : Bool) (n : Nat) (d : Document) :
    (d.flag checked n).outline = d.outline :=
  outline_modifyElement n (fun e => { e with checked }) (fun _ => ⟨rfl, rfl⟩) d

theorem outline_check (checked : Bool) (n : Nat) (d : Document) :
    (d.check checked n).outline = d.outline := by
  rw [check, outline_flag]
  exact outline_foldl (fun d m => outline_flag false m d) _ d

theorem outline_fillTextAreas (d : Document) : d.fillTextAreas.outline = d.outline := by
  refine outline_foldl (fun d' n => ?_) _ d
  exact outline_modifyElement n (fun e => { e with value := d'.textContent n })
    (fun _ => ⟨rfl, rfl⟩) d'

theorem outline_settleRadios (d : Document) : d.settleRadios.outline = d.outline := by
  refine outline_foldl (fun d n => ?_) _ d
  split
  · exact outline_check true n d
  · rfl

/-! ## Forests in documents -/

/-- A node that holds a content and, if it is an element, a forest, in front of another forest. -/
def graft (content : Option Content) (inner rest : Forest) : Forest :=
  match content with
  | some (.text s) => .text s rest
  | some (.element e) => .element e.tag e.attributes inner rest
  | _ => rest

/-- What is under a node, read as a forest. -/
def forest (d : Document) (n : Nat) : Forest :=
  (d.children n).attach.foldr (fun c rest => graft (d.content? c.1) (d.forest c.1) rest) .nil
termination_by d.size - n
decreasing_by
  have := mem_children.1 c.2
  omega

theorem forest_eq (d : Document) (n : Nat) :
    d.forest n =
      (d.children n).foldr (fun c rest => graft (d.content? c) (d.forest c) rest) .nil := by
  rw [forest]
  exact List.foldr_attach (f := fun c rest => graft (d.content? c) (d.forest c) rest)

/-! ## Layouts -/

/-- Whether the nodes from `n` on are those of a forest under `p`, in document order. -/
def Laid (d : Document) : Forest → Nat → Nat → Prop
  | .nil, _, _ => True
  | .text s rest, p, n => d.outline[n]? = some ⟨some p, .text s⟩ ∧ d.Laid rest p (n + 1)
  | .element tag attributes children rest, p, n =>
    d.outline[n]? = some ⟨some p, .element (.ofTag tag attributes)⟩ ∧
      d.Laid children n (n + 1) ∧ d.Laid rest p (n + 1 + children.size)

/-- The numbers of the nodes of a forest that are in no element, if its first node has the number
`n`. -/
def tops : Forest → Nat → List Nat
  | .nil, _ => []
  | .text _ rest, n => n :: tops rest (n + 1)
  | .element _ _ children rest, n => n :: tops rest (n + 1 + children.size)

/-- No node from `k` on hangs under one of the nodes from `n` up to `k`. -/
def Detached (d : Document) (n k : Nat) : Prop :=
  ∀ m, k ≤ m → ∀ q, n ≤ q → q < k → d.parent? m ≠ some q

variable {d : Document}

theorem Detached.mono {n n' k : Nat} (h : d.Detached n k) (hn : n ≤ n') : d.Detached n' k :=
  fun m hm q hq hk => h m hm q (Nat.le_trans hn hq) hk

/-- Of the nodes of a forest under `p`, those that hang under an earlier node are its tops. -/
theorem filter_of_laid {F : Forest} {p n q : Nat} (h : d.Laid F p n) (hq : q < n) :
    (List.range' n F.size).filter (d.parent? · == some q) = if q = p then tops F n else [] := by
  induction F generalizing p n with
  | nil => simp [Forest.size, tops]
  | text s rest ih =>
    obtain ⟨hn, hrest⟩ := h
    have hparent := parent?_of_outline hn
    rw [Forest.size, List.range'_succ, List.filter_cons, ih hrest (by omega), hparent, tops]
    by_cases hp : q = p
    · simp [hp]
    · simp [hp, Ne.symm hp]
  | element tag attributes children rest ihc ih =>
    obtain ⟨hn, hchildren, hrest⟩ := h
    have hparent := parent?_of_outline hn
    have hne : q ≠ n := by omega
    rw [Forest.size, List.range'_succ, ← List.range'_append_1, List.filter_cons,
      List.filter_append, ihc hchildren (by omega), ih hrest (by omega), hparent, if_neg hne, tops]
    by_cases hp : q = p
    · simp [hp]
    · simp [hp, Ne.symm hp]

/-- Nothing behind a node and what is in it hangs under them when nothing behind the whole forest
does. -/
theorem Detached.before {rest : Forest} {p n k : Nat} (hrest : d.Laid rest p k) (hp : p < n)
    (h : d.Detached n (k + rest.size)) : d.Detached n k := by
  intro m hm q hq hqk he
  by_cases hm' : k + rest.size ≤ m
  · exact h m hm' q hq (by omega) he
  · -- Such a node would be one of the rest, whose tops hang under `p` and not under `q`.
    have hmem : m ∈ (List.range' k rest.size).filter (d.parent? · == some q) :=
      List.mem_filter.2 ⟨List.mem_range'_1.2 ⟨hm, by omega⟩, by rw [he, beq_self_eq_true]⟩
    rw [filter_of_laid hrest hqk, if_neg (by omega)] at hmem
    exact absurd hmem List.not_mem_nil

/-- The children of a node are the tops of the forest that is laid out behind it. -/
theorem children_of_laid {F : Forest} {q : Nat} (h : d.Laid F q (q + 1))
    (hd : d.Detached q (q + 1 + F.size)) (hsize : q + 1 + F.size ≤ d.size) :
    d.children q = tops F (q + 1) := by
  have hsplit : d.size - (q + 1) = F.size + (d.size - (q + 1 + F.size)) := by omega
  have hafter : (List.range' (q + 1 + F.size) (d.size - (q + 1 + F.size))).filter
      (d.parent? · == some q) = [] := by
    rw [List.filter_eq_nil_iff]
    intro m hm
    rw [beq_iff_eq]
    exact hd m (List.mem_range'_1.1 hm).1 q (Nat.le_refl q) (by omega)
  rw [children, hsplit, ← List.range'_append_1, List.filter_append, hafter,
    filter_of_laid h (Nat.lt_succ_self q), if_pos rfl, List.append_nil]

/-- Whether the nodes from `n` on hold what a forest says, in document order, and have the children
that it says. -/
def Shown (d : Document) : Forest → Nat → Prop
  | .nil, _ => True
  | .text s rest, n => d.content? n = some (.text s) ∧ d.children n = [] ∧ d.Shown rest (n + 1)
  | .element tag attributes children rest, n =>
    (∃ e, d.content? n = some (.element e) ∧ e.tag = tag ∧ e.attributes = attributes) ∧
      d.children n = tops children (n + 1) ∧ d.Shown children (n + 1) ∧
      d.Shown rest (n + 1 + children.size)

/-- A forest that is laid out is shown when nothing behind it hangs under it. -/
theorem shown_of_laid {F : Forest} {p n : Nat} (h : d.Laid F p n) (hp : p < n)
    (hd : d.Detached n (n + F.size)) (hsize : n + F.size ≤ d.size) : d.Shown F n := by
  induction F generalizing p n with
  | nil => trivial
  | text s rest ih =>
    obtain ⟨hn, hrest⟩ := h
    rw [Forest.size, ← Nat.add_assoc, Nat.add_right_comm] at hd hsize
    have hinner : d.Detached n (n + 1) := hd.before hrest hp
    have hkids : d.children n = [] := children_of_laid (F := .nil) trivial hinner (by
      show n + 1 ≤ d.size
      omega)
    exact ⟨content?_of_text hn, hkids, ih hrest (by omega) (hd.mono (by omega)) hsize⟩
  | element tag attributes children rest ihc ih =>
    obtain ⟨hn, hchildren, hrest⟩ := h
    have hend : n + (children.size + rest.size + 1) = n + 1 + children.size + rest.size := by omega
    rw [Forest.size, hend] at hd hsize
    have hinner : d.Detached n (n + 1 + children.size) := hd.before hrest hp
    exact ⟨content?_of_element hn, children_of_laid hchildren hinner (by omega),
      ihc hchildren (by omega) (hinner.mono (by omega)) (by omega),
      ih hrest (by omega) (hd.mono (by omega)) hsize⟩

/-- A forest that is shown is read back from its tops. -/
theorem foldr_graft_tops {F : Forest} {n : Nat} (h : d.Shown F n) :
    (tops F n).foldr (fun c rest => graft (d.content? c) (d.forest c) rest) .nil = F := by
  induction F generalizing n with
  | nil => rfl
  | text s rest ih =>
    obtain ⟨hcontent, -, hrest⟩ := h
    rw [tops, List.foldr_cons, ih hrest, hcontent, graft]
  | element tag attributes children rest ihc ih =>
    obtain ⟨⟨e, hcontent, rfl, rfl⟩, hkids, hchildren, hrest⟩ := h
    have hinner : d.forest n = children := by rw [forest_eq, hkids, ihc hchildren]
    rw [tops, List.foldr_cons, ih hrest, hcontent, hinner, graft]

/-- The nodes of a forest that is shown are numbered in document order. -/
theorem flatMap_below_tops {F : Forest} {n : Nat} (h : d.Shown F n) :
    (tops F n).flatMap (fun c => c :: d.below c) = List.range' n F.size := by
  induction F generalizing n with
  | nil => rfl
  | text s rest ih =>
    obtain ⟨-, hkids, hrest⟩ := h
    have hinner : d.below n = [] := by rw [below_eq, hkids, List.flatMap_nil]
    rw [tops, List.flatMap_cons, hinner, ih hrest, Forest.size, List.range'_succ,
      List.singleton_append]
  | element tag attributes children rest ihc ih =>
    obtain ⟨-, hkids, hchildren, hrest⟩ := h
    have hinner : d.below n = List.range' (n + 1) children.size := by
      rw [below_eq, hkids, ihc hchildren]
    rw [tops, List.flatMap_cons, hinner, ih hrest, Forest.size, List.range'_succ, List.cons_append,
      List.range'_append_1]

/-- **Reading back.** A forest that makes up a document under its root is what is read from the
root, and its nodes are numbered from 1 on in document order. -/
theorem read_of_laid {F : Forest} (h : d.Laid F root 1) (hsize : d.size = F.size + 1) :
    d.forest root = F ∧ d.below root = List.range' 1 F.size := by
  have hnone : ∀ m, d.size ≤ m → d.parent? m = none := by
    intro m hm
    rw [parent?, Array.getElem?_eq_none hm]
    rfl
  have hd : ∀ n, d.Detached n (1 + F.size) := by
    intro n m hm q _ _ he
    rw [hnone m (by omega)] at he
    cases he
  have hshown : d.Shown F 1 := shown_of_laid h Nat.zero_lt_one (hd 1) (by omega)
  have hkids : d.children root = tops F 1 := children_of_laid h (hd root) (by
    show 0 + 1 + F.size ≤ d.size
    omega)
  constructor
  · rw [forest_eq, hkids, foldr_graft_tops hshown]
  · rw [below_eq, hkids, flatMap_below_tops hshown]

end Document

end FormRules
