import Mathlib.Data.List.Find
import Mathlib.Data.List.TakeWhile
import StyleTree.Page.Structure
import StyleTree.Proofs.Document.Tree

/-!
# Pages with the same elements

A page may change without any element being told: a node may be created, and what stands beside
the root element or in no tree at all may be put in, taken out or given another text. `SameElements`
says that two pages differ in nothing else. Each element then is the same element, with the same
elements around it and the same nodes below it.
-/

namespace StyleTree

namespace Page

/-- The elements of `p` are elements of `q` as well, and what belongs to them is the same. Nodes
that only `q` has are roots. -/
structure SameElements (p q : Page) : Prop where
  valid : p.tree.Valid
  valid' : q.tree.Valid
  html : q.html = p.html
  mode : q.mode = p.mode
  url : q.url = p.url
  element_of_has : ∀ {m}, p.tree.has m = true → q.element? m = p.element? m
  parent_of_new : ∀ {m}, p.tree.has m = false → q.tree.parent? m = none
  parent_of_isElement : ∀ {m}, p.isElement m = true → q.tree.parent? m = p.tree.parent? m
  children : ∀ {m}, m ≠ Tree.root → q.tree.children m = p.tree.children m
  data : ∀ {m a}, p.tree.parent? m = some a → a ≠ Tree.root → q.tree.data? m = p.tree.data? m
  childElements_root : q.childElements Tree.root = p.childElements Tree.root
  elements : q.elements = p.elements

theorem has_of_isElement {p : Page} {n : NodeId} (hn : p.isElement n = true) :
    p.tree.has n = true := by
  obtain ⟨e, he⟩ := Option.isSome_iff_exists.mp hn
  obtain ⟨data, hdata, -⟩ := Option.bind_eq_some_iff.mp he
  exact Tree.has_of_data? hdata

/-- Only elements are of a kind that has a name. -/
theorem isElement_of_kind {p : Page} {n : NodeId} (h : p.kind n ≠ .other) :
    p.isElement n = true := by
  cases he : p.element? n with
  | none => simp [kind, he] at h
  | some e => exact Option.isSome_iff_exists.mpr ⟨e, he⟩

/-- An element stands below the document or below an element. -/
theorem parent_of_isElement {p : Page} (h : p.tree.Valid) {n a : NodeId}
    (ha : p.tree.parent? n = some a) : a = Tree.root ∨ p.isElement a = true := by
  obtain ⟨data, hdata⟩ := Tree.exists_data? (Tree.has_of_parent ha)
  obtain ⟨parent, hparent, rfl | hholds, -⟩ := h.placed ha hdata
  · exact .inl (h.root_of_document a hparent)
  · right
    show (p.tree.element? a).isSome = true
    rw [Tree.element?, hparent]
    cases parent <;> first | rfl | cases hholds

theorem not_isElement_root {p : Page} (h : p.tree.Valid) : p.isElement Tree.root = false := by
  show (p.tree.element? Tree.root).isSome = false
  rw [Tree.element?, h.data_root]
  rfl

theorem ne_root_of_isElement {p : Page} (h : p.tree.Valid) {n : NodeId}
    (hn : p.isElement n = true) : n ≠ Tree.root := by
  rintro rfl
  rw [not_isElement_root h] at hn
  cases hn

/-- The way up through elements. -/
theorem ancestorElements_eq {p : Page} (h : p.tree.Sound) (n : NodeId) :
    p.ancestorElements n = (p.parentElement? n).elim [] fun a => a :: p.ancestorElements a := by
  unfold ancestorElements parentElement?
  cases ha : p.tree.parent? n with
  | none => rw [h.ancestors_of_root ha]; rfl
  | some a =>
    rw [h.ancestors_of_child ha, List.takeWhile_cons, Option.filter_some]
    split <;> rfl

theorem isElement_of_mem_ancestorElements {p : Page} {n a : NodeId}
    (ha : a ∈ p.ancestorElements n) : p.isElement a = true :=
  List.mem_takeWhile_imp ha

theorem isElement_of_parentElement? {p : Page} {n a : NodeId}
    (ha : p.parentElement? n = some a) : p.isElement a = true :=
  (Option.filter_eq_some_iff.mp ha).2

namespace SameElements

variable {p q : Page} {n : NodeId} (h : SameElements p q)

include h

theorem isElement_of_has (hn : p.tree.has n = true) : q.isElement n = p.isElement n := by
  show (q.element? n).isSome = (p.element? n).isSome
  rw [h.element_of_has hn]

theorem filter_isElement {l : List NodeId} (hl : ∀ m ∈ l, p.tree.has m = true) :
    l.filter q.isElement = l.filter p.isElement :=
  List.filter_congr fun m hm => h.isElement_of_has (hl m hm)

section Element

variable (hn : p.isElement n = true)

include hn

/-! ## The element itself -/

theorem element? : q.element? n = p.element? n :=
  h.element_of_has (has_of_isElement hn)

theorem isElement : q.isElement n = true := by
  rw [h.isElement_of_has (has_of_isElement hn), hn]

theorem kind : q.kind n = p.kind n := by
  rw [Page.kind, Page.kind, h.element? hn]

theorem attr? (name : String) : q.attr? n name = p.attr? n name := by
  rw [Page.attr?, Page.attr?, h.element? hn]

theorem hasAttr (name : String) : q.hasAttr n name = p.hasAttr n name := by
  rw [Page.hasAttr, Page.hasAttr, h.attr? hn]

theorem id? : q.id? n = p.id? n := by
  rw [Page.id?, Page.id?, h.element? hn]

theorem hasState (f : StateFlag) : q.hasState n f = p.hasState n f := by
  rw [Page.hasState, Page.hasState, h.element? hn]

theorem isHtmlElement : q.isHtmlElement n = p.isHtmlElement n := by
  rw [Page.isHtmlElement, Page.isHtmlElement, h.element? hn, h.html]

theorem isSameType {m : NodeId} (hm : p.isElement m = true) :
    q.isSameType n m = p.isSameType n m := by
  rw [Page.isSameType, Page.isSameType, h.element? hn, h.element? hm]

/-! ## Above the element -/

theorem parent? : q.tree.parent? n = p.tree.parent? n :=
  h.parent_of_isElement hn

theorem parentElement? : q.parentElement? n = p.parentElement? n := by
  rw [Page.parentElement?, Page.parentElement?, h.parent? hn]
  cases ha : p.tree.parent? n with
  | none => rfl
  | some a =>
    rw [Option.filter_some, Option.filter_some, h.isElement_of_has]
    exact h.valid.has_parent ha

theorem ancestorElements : q.ancestorElements n = p.ancestorElements n := by
  induction h.valid.acyclic n with
  | intro n _ ih =>
    rw [ancestorElements_eq h.valid.toSound, ancestorElements_eq h.valid'.toSound,
      h.parentElement? hn]
    cases ha : p.parentElement? n with
    | none => rfl
    | some a =>
      have hparent := (Option.filter_eq_some_iff.mp ha).1
      simp only [Option.elim_some, ih a hparent (isElement_of_parentElement? ha)]

theorem ancestors : q.tree.ancestors n = p.tree.ancestors n := by
  refine h.valid.ancestors_congr h.valid'.toSound fun a ha => ?_
  -- All that is above an element is an element, but for the document.
  have hkind : a = Tree.root ∨ p.isElement a = true := by
    rcases List.mem_cons.mp ha with rfl | ha
    · exact .inr hn
    · obtain ⟨c, hc, -⟩ := h.valid.mem_ancestors.mp ha
      exact Page.parent_of_isElement h.valid hc
  rcases hkind with rfl | ha
  · rw [h.valid.parent_root, h.valid'.parent_root]
  · exact h.parent_of_isElement ha

theorem isRoot : q.isRoot n = p.isRoot n := by
  unfold Page.isRoot
  rw [h.parent? hn]
  cases ha : p.tree.parent? n with
  | none => rfl
  | some a =>
    rcases Page.parent_of_isElement h.valid ha with rfl | ha
    · simp [h.valid.data_root, h.valid'.data_root]
    · -- An element is no document, in either page.
      have hne : ∀ {r : Page}, r.tree.Valid → r.isElement a = true →
          r.tree.data? a ≠ some .document := by
        intro r hr har hdoc
        exact ne_root_of_isElement hr har (hr.root_of_document a hdoc)
      rw [Option.bind_some, Option.bind_some, Bool.eq_iff_iff, beq_iff_eq, beq_iff_eq]
      exact iff_of_false (hne h.valid' (h.isElement ha)) (hne h.valid ha)

end Element

/-! ## Beside and below elements -/

theorem has_of_mem_children {a m : NodeId} (hm : m ∈ p.tree.children a) :
    p.tree.has m = true :=
  Tree.has_of_parent (h.valid.mem_children.mp hm)

theorem childElements (hn : n = Tree.root ∨ p.isElement n = true) :
    q.childElements n = p.childElements n := by
  rcases hn with rfl | hn
  · exact h.childElements_root
  · unfold Page.childElements
    rw [h.children (ne_root_of_isElement h.valid hn)]
    exact h.filter_isElement fun m => h.has_of_mem_children

/-- The siblings around an element are the rest of the children of its parent. -/
theorem siblings (hn : p.isElement n = true) :
    q.precedingElements n = p.precedingElements n ∧
      q.followingElements n = p.followingElements n := by
  unfold Page.precedingElements Page.followingElements
  cases ha : p.tree.parent? n with
  | none =>
    obtain ⟨hb, hf⟩ := h.valid.siblings_of_root ha
    obtain ⟨hb', hf'⟩ := h.valid'.siblings_of_root ((h.parent? hn).trans ha)
    simp [hb, hf, hb', hf']
  | some a =>
    have ha' := (h.parent? hn).trans ha
    obtain ⟨xs, ys, he⟩ := List.append_of_mem (h.valid.mem_children.mpr ha)
    obtain ⟨us, vs, he'⟩ := List.append_of_mem (h.valid'.mem_children.mpr ha')
    obtain ⟨hb, hf⟩ := h.valid.siblings he
    obtain ⟨hb', hf'⟩ := h.valid'.siblings he'
    have hsame := h.childElements (Page.parent_of_isElement h.valid ha)
    unfold Page.childElements at hsame
    rw [he, he', List.filter_append, List.filter_append, List.filter_cons_of_pos hn,
      List.filter_cons_of_pos (h.isElement hn)] at hsame
    -- The element occurs once among the children, so both lists are cut at the same place.
    have hnodup := h.valid'.nodup_children a
    rw [he', List.nodup_middle, List.nodup_cons, List.mem_append, not_or] at hnodup
    have hus : n ∉ us.filter q.isElement := fun hn => hnodup.1.1 (List.mem_of_mem_filter hn)
    have hvs : n ∉ vs.filter q.isElement := fun hn => hnodup.1.2 (List.mem_of_mem_filter hn)
    obtain ⟨hxs, -, hys⟩ := (List.append_cons_inj_of_notMem hus hvs).mp hsame
    rw [hb, hf, hb', hf', List.filter_reverse, List.filter_reverse, hxs, hys]
    exact ⟨rfl, rfl⟩

theorem precedingElements (hn : p.isElement n = true) :
    q.precedingElements n = p.precedingElements n :=
  (h.siblings hn).1

theorem followingElements (hn : p.isElement n = true) :
    q.followingElements n = p.followingElements n :=
  (h.siblings hn).2

/-- What is below a node other than the document is no document. -/
theorem ne_root_of_mem_preorder {m : NodeId} (hn : n ≠ Tree.root) (hm : m ∈ p.tree.preorder n) :
    m ≠ Tree.root := by
  rintro rfl
  rcases h.valid.mem_preorder.mp hm with rfl | hm
  · exact hn rfl
  · rw [h.valid.ancestors_of_root h.valid.parent_root] at hm
    cases hm

theorem preorder (hn : n ≠ Tree.root) : q.tree.preorder n = p.tree.preorder n :=
  h.valid.preorder_congr h.valid'.toSound fun _ hm =>
    h.children (h.ne_root_of_mem_preorder hn hm)

theorem descendantElements (hn : p.isElement n = true) :
    q.descendantElements n = p.descendantElements n := by
  unfold Page.descendantElements Tree.descendants
  rw [h.preorder (ne_root_of_isElement h.valid hn)]
  refine h.filter_isElement fun m hm => ?_
  exact h.valid.has_of_mem_preorder (has_of_isElement hn) (List.mem_of_mem_tail hm)

end SameElements

end Page

end StyleTree
