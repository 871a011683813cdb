import StyleTree.Proofs.Document.Tree
import StyleTree.Proofs.Selector.Position

/-!
# Positions number the siblings that count

An element looks for its position on its own, by counting the siblings on one side that count for
it. All the same, the positions of all siblings that count, taken together, are the numbers from one
on, in the order of the siblings, and from the other end in the opposite order. Of siblings that are
compared by their type this holds within each type.
-/

namespace StyleTree

/-- A list is numbered if each of its members has the number of those before it, plus one. -/
theorem map_eq_range' {α : Type} {f : α → Option Nat} {l : List α} {start : Nat}
    (h : ∀ xs x ys, l = xs ++ x :: ys → f x = some (start + xs.length)) :
    l.map f = (List.range' start l.length).map some := by
  induction l generalizing start with
  | nil => rfl
  | cons x l ih =>
    have hrest : l.map f = (List.range' (start + 1) l.length).map some := by
      apply ih
      intro xs y ys hl
      rw [h (x :: xs) y ys (by rw [hl, List.cons_append]), List.length_cons]
      congr 1
      omega
    rw [List.map_cons, hrest, h [] x l rfl, List.length_cons, List.range'_succ]
    rfl

namespace Page

variable {p : Page} {n m : NodeId} {filter : SiblingFilter}

/-- The elements that have the same parent as the element, itself among them. An element without a
parent is alone. -/
def siblingElements (p : Page) (n : NodeId) : List NodeId :=
  match p.tree.parent? n with
  | some q => p.childElements q
  | none => [n]

/-- The element is of the type: it has the namespace, and the local name in any case. -/
def isOfType (p : Page) (ns localName : String) (m : NodeId) : Bool :=
  (p.element? m).any fun e =>
    e.name.ns == ns && Ascii.eqIgnoreCase e.name.localName localName

/-- The positions of the elements are the numbers from one to their number: each number once, in the
order of the list from the start, and in the opposite order from the end. -/
structure Numbers (p : Page) (filter : SiblingFilter) (l : List NodeId) : Prop where
  fromStart : l.map (p.siblingIndex? · filter false) = (List.range' 1 l.length).map some
  fromEnd : l.map (p.siblingIndex? · filter true) = (List.range' 1 l.length).reverse.map some
  distinct : ∀ m ∈ l, ∀ m' ∈ l, ∀ fromEnd,
    p.siblingIndex? m filter fromEnd = p.siblingIndex? m' filter fromEnd → m = m'
  complete : ∀ fromEnd i, 1 ≤ i → i ≤ l.length → ∃ m ∈ l, p.siblingIndex? m filter fromEnd = some i
  opposite : ∀ m ∈ l, ∃ i j, p.siblingIndex? m filter false = some i ∧
    p.siblingIndex? m filter true = some j ∧ i + j = l.length + 1

/-! ## Siblings -/

theorem mem_siblingElements_self (h : p.tree.Sound) (hn : p.isElement n = true) :
    n ∈ p.siblingElements n := by
  unfold siblingElements
  split
  next q hq => exact List.mem_filter.mpr ⟨h.mem_children.mpr hq, hn⟩
  next => exact List.mem_singleton_self n

theorem isElement_of_mem_siblingElements (hn : p.isElement n = true)
    (hm : m ∈ p.siblingElements n) : p.isElement m = true := by
  unfold siblingElements at hm
  split at hm
  next => exact List.of_mem_filter hm
  next =>
    obtain rfl := List.mem_singleton.mp hm
    exact hn

/-- What an element finds on its two sides is what the list of its siblings holds there. -/
theorem siblingElements_split (h : p.tree.Sound) {xs ys : List NodeId}
    (hs : p.siblingElements n = xs ++ m :: ys) :
    p.precedingElements m = xs.reverse ∧ p.followingElements m = ys := by
  unfold siblingElements at hs
  split at hs
  next q _ =>
    obtain ⟨xs', rest, hchildren, rfl, hrest⟩ := List.filter_eq_append_iff.mp hs
    obtain ⟨gap, ys', rfl, hgap, hm, rfl⟩ := List.filter_eq_cons_iff.mp hrest
    rw [← List.append_assoc] at hchildren
    obtain ⟨hbefore, hafter⟩ := h.siblings hchildren
    have hgap : gap.filter p.isElement = [] := List.filter_eq_nil_iff.mpr hgap
    constructor
    · rw [precedingElements, hbefore, List.filter_reverse, List.filter_append, hgap,
        List.append_nil]
    · rw [followingElements, hafter]
  next hroot =>
    obtain ⟨rfl, hm⟩ : xs = [] ∧ m :: ys = [n] := by
      rcases List.singleton_eq_append_iff.mp hs with ⟨hxs, hm⟩ | ⟨-, hm⟩
      · exact ⟨hxs, hm⟩
      · cases hm
    obtain ⟨rfl, rfl⟩ := List.cons.inj hm
    obtain ⟨hbefore, hafter⟩ := h.siblings_of_root hroot
    rw [precedingElements, followingElements, hbefore, hafter]
    exact ⟨rfl, rfl⟩

theorem nodup_siblingElements (h : p.tree.Sound) (n : NodeId) : (p.siblingElements n).Nodup := by
  unfold siblingElements
  split
  next q _ => exact (h.nodup_children q).filter _
  next => exact List.nodup_singleton n

/-! ## Types -/

/-- To be of one type is an equivalence: an element of a type is of the same type as another one
exactly if that is of the type. -/
theorem isSameType_eq_isOfType {ns localName : String} (hm : p.isOfType ns localName m = true)
    (x : NodeId) : p.isSameType m x = p.isOfType ns localName x := by
  unfold isOfType at hm ⊢
  unfold isSameType
  cases he : p.element? m with
  | none => simp [he] at hm
  | some e =>
    cases hf : p.element? x with
    | none => rfl
    | some f =>
      simp only [he, Option.any_some, Bool.and_eq_true, beq_iff_eq, Ascii.eqIgnoreCase] at hm
      simp only [Element.isSameType, Ascii.eqIgnoreCase, Option.any_some, hm.1, hm.2]
      rw [Bool.eq_iff_iff]
      simp only [Bool.and_eq_true, beq_iff_eq]
      exact and_congr eq_comm eq_comm

/-! ## Positions -/

/-- Elements are numbered if each of them is preceded and followed by those that it counts. -/
theorem Numbers.of_split {l : List NodeId} (hnodup : l.Nodup)
    (hsplit : ∀ xs m ys, l = xs ++ m :: ys →
      p.siblingIndex? m filter false = some (1 + xs.length) ∧
        p.siblingIndex? m filter true = some (1 + ys.length)) : p.Numbers filter l := by
  have hstart : l.map (p.siblingIndex? · filter false) = (List.range' 1 l.length).map some :=
    map_eq_range' fun xs x ys hl => (hsplit xs x ys hl).1
  have hend : l.map (p.siblingIndex? · filter true) =
      (List.range' 1 l.length).reverse.map some := by
    have hreverse : l.reverse.map (p.siblingIndex? · filter true) =
        (List.range' 1 l.reverse.length).map some := by
      apply map_eq_range'
      intro xs x ys hl
      have hl : l = ys.reverse ++ x :: xs.reverse := by
        rw [← List.reverse_reverse l, hl]
        simp
      rw [(hsplit _ _ _ hl).2, List.length_reverse]
    rw [List.length_reverse, List.map_reverse] at hreverse
    rw [List.map_reverse, ← hreverse, List.reverse_reverse]
  -- Whichever end they count from, the positions are the numbers up to the length in some order.
  have hperm : ∀ fromEnd, (l.map (p.siblingIndex? · filter fromEnd)).Perm
      ((List.range' 1 l.length).map some) := by
    intro fromEnd
    cases fromEnd with
    | false => rw [hstart]
    | true =>
      rw [hend]
      exact (List.reverse_perm _).map some
  refine ⟨hstart, hend, ?_, ?_, ?_⟩
  · intro m hm m' hm' fromEnd heq
    have hmap : (l.map (p.siblingIndex? · filter fromEnd)).Nodup :=
      (hperm fromEnd).nodup_iff.mpr (.map (fun _ _ => Option.some.inj) List.nodup_range')
    exact List.inj_on_of_nodup_map hmap hm hm' heq
  · intro fromEnd i hlow hhigh
    have hi : some i ∈ (List.range' 1 l.length).map some := by
      refine List.mem_map_of_mem (List.mem_range'_1.mpr ?_)
      omega
    obtain ⟨m, hm, hindex⟩ := List.mem_map.mp ((hperm fromEnd).mem_iff.mpr hi)
    exact ⟨m, hm, hindex⟩
  · intro m hm
    obtain ⟨xs, ys, rfl⟩ := List.append_of_mem hm
    obtain ⟨hfirst, hlast⟩ := hsplit xs m ys rfl
    refine ⟨_, _, hfirst, hlast, ?_⟩
    rw [List.length_append, List.length_cons]
    omega

section Counted

variable {counts : NodeId → Bool}

/-- The positions of an element that counts, among siblings that count for it as for the list. -/
theorem siblingIndex?_split (h : p.tree.Sound) (hn : p.isElement n = true) {xs ys : List NodeId}
    (hs : (p.siblingElements n).filter counts = xs ++ m :: ys)
    (hcounts : ∀ x, filter.accepts p m x = counts x) :
    p.siblingIndex? m filter false = some (1 + xs.length) ∧
      p.siblingIndex? m filter true = some (1 + ys.length) := by
  obtain ⟨xs', rest, hsiblings, rfl, hrest⟩ := List.filter_eq_append_iff.mp hs
  obtain ⟨gap, ys', rfl, hgap, hm, rfl⟩ := List.filter_eq_cons_iff.mp hrest
  have helement : p.isElement m = true :=
    isElement_of_mem_siblingElements hn (by simp [hsiblings])
  rw [← List.append_assoc] at hsiblings
  obtain ⟨hbefore, hafter⟩ := siblingElements_split h hsiblings
  have hgap : gap.countP counts = 0 := List.countP_eq_zero.mpr hgap
  have hindex : ∀ fromEnd, p.siblingIndex? m filter fromEnd =
      some (1 + (p.siblingsFrom fromEnd m).countP counts) := by
    intro fromEnd
    rw [siblingIndex?_eq helement fun x _ => hcounts x, if_pos hm]
  constructor
  · rw [hindex, siblingsFrom, if_neg Bool.false_ne_true, hbefore, List.countP_reverse,
      List.countP_append, hgap, Nat.add_zero, List.countP_eq_length_filter]
  · rw [hindex, siblingsFrom, if_pos rfl, hafter, List.countP_eq_length_filter]

/-- The siblings that count are numbered if they all agree on which siblings do. -/
theorem numbers_filter (h : p.tree.Sound) (hn : p.isElement n = true)
    (hcounts : ∀ m, counts m = true → ∀ x, filter.accepts p m x = counts x) :
    p.Numbers filter ((p.siblingElements n).filter counts) := by
  refine .of_split ((nodup_siblingElements h n).filter counts) fun xs m ys hs => ?_
  have hm : m ∈ (p.siblingElements n).filter counts := by simp [hs]
  exact siblingIndex?_split h hn hs (hcounts m (List.of_mem_filter hm))

end Counted

end Page

namespace Document

/-- After any operations, positions number the siblings that count: all elements, those that match a
list of selectors, and, within each type, those of the type. -/
theorem numbering_run (doctype : Option String) (o : Options) (os : List Operation) :
    let p := ((create doctype o).run os).page
    ∀ n, p.isElement n = true →
      n ∈ p.siblingElements n ∧
      p.Numbers .any (p.siblingElements n) ∧
      (∀ list : List Selector,
        p.Numbers (.matching list) ((p.siblingElements n).filter (p.isMatch · list none)) ∧
        ∀ m ∈ p.siblingElements n, p.isMatch m list none = false →
          ∀ fromEnd, p.siblingIndex? m (.matching list) fromEnd = none) ∧
      ∀ ns localName : String,
        p.Numbers .sameType ((p.siblingElements n).filter (p.isOfType ns localName)) := by
  intro p n hn
  have hsound : p.tree.Sound := (run_valid doctype o os).toSound
  refine ⟨Page.mem_siblingElements_self hsound hn, ?_, fun list => ⟨?_, ?_⟩, fun ns localName => ?_⟩
  · have hall : p.Numbers .any ((p.siblingElements n).filter fun _ => true) :=
      Page.numbers_filter hsound hn fun _ _ _ => rfl
    rwa [List.filter_true] at hall
  · exact Page.numbers_filter hsound hn fun _ _ _ => rfl
  · intro m _ hm fromEnd
    rw [Page.siblingIndex?, SiblingFilter.accepts, if_neg (by simp [hm])]
  · exact Page.numbers_filter hsound hn fun m hm x => Page.isSameType_eq_isOfType hm x

/-- Two paragraphs with a text between them, whose names differ in case, and a third element. -/
theorem numbering_run_paragraphs :
    let p := ((create (some "html") .default).run [.createElement "div", .createElement "p",
      .createText "a", .createElementNs (some Namespace.html) "P", .createElement "span",
      .insertBefore Tree.root 2 none, .insertBefore 2 3 none, .insertBefore 2 4 none,
      .insertBefore 2 5 none, .insertBefore 2 6 none, .setState 5 [.hover] true,
      .setState 6 [.hover] true]).page
    let hovered : List Selector := [.ofCompound [.pseudoClass .hover]]
    p.isElement 3 = true ∧ p.tree.children 2 = [3, 4, 5, 6] ∧ p.siblingElements 3 = [3, 5, 6] ∧
      p.Numbers .any [3, 5, 6] ∧ p.Numbers (.matching hovered) [5, 6] ∧
      p.siblingIndex? 3 (.matching hovered) true = none ∧ p.Numbers .sameType [3, 5] := by
  intro p hovered
  have hn : p.isElement 3 = true := by decide +kernel
  have hsiblings : p.siblingElements 3 = [3, 5, 6] := by decide +kernel
  have hmatch : [3, 5, 6].filter (p.isMatch · hovered none) = [5, 6] := by decide +kernel
  have htype : [3, 5, 6].filter (p.isOfType Namespace.html "p") = [3, 5] := by decide +kernel
  obtain ⟨-, hany, hlist, htypes⟩ := numbering_run (some "html") .default [.createElement "div",
    .createElement "p", .createText "a", .createElementNs (some Namespace.html) "P",
    .createElement "span", .insertBefore Tree.root 2 none, .insertBefore 2 3 none,
    .insertBefore 2 4 none, .insertBefore 2 5 none, .insertBefore 2 6 none,
    .setState 5 [.hover] true, .setState 6 [.hover] true] 3 hn
  obtain ⟨hnumbers, hothers⟩ := hlist hovered
  have hself := Page.mem_siblingElements_self (run_valid _ _ _).toSound hn
  have hnone := hothers 3 hself (by decide +kernel) true
  have htypes := htypes Namespace.html "p"
  rw [hsiblings] at hany hnumbers htypes
  rw [hmatch] at hnumbers
  rw [htype] at htypes
  exact ⟨hn, by decide +kernel, hsiblings, hany, hnumbers, hnone, htypes⟩

end Document

end StyleTree
