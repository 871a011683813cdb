import StyleTree.Proofs.Document.TreeOrder

/-!
# Tree order and queries

The list of a root is what the comparison of nodes refers to: nodes of one tree compare as their
positions in it. What a query finds is a part of that list, so it is sorted, and the query for one
node finds the least of it.
-/

namespace StyleTree

/-- The head of a sorted list is the member that is less than every other one. -/
theorem head?_eq_some_iff_of_pairwise {α : Type} {R : α → α → Prop} {l : List α} {x : α}
    (hasymm : ∀ {a b}, R a b → ¬R b a) (hl : l.Pairwise R) :
    l.head? = some x ↔ x ∈ l ∧ ∀ y ∈ l, y ≠ x → R x y := by
  cases hl with
  | nil => simp
  | @cons a l ha _ =>
    rw [List.head?_cons, Option.some.injEq]
    constructor
    · rintro rfl
      refine ⟨List.mem_cons_self, ?_⟩
      intro y hy hne
      exact ha y ((List.mem_cons.mp hy).resolve_left hne)
    · rintro ⟨hx, hleast⟩
      by_contra hne
      have hx := (List.mem_cons.mp hx).resolve_left (Ne.symm hne)
      exact hasymm (ha x hx) (hleast a List.mem_cons_self hne)

namespace Tree.Sound

variable {t : Tree} (h : t.Sound) {a b n r : NodeId}

include h

theorem top_eq_of_mem (hr : t.parent? r = none) (ha : a ∈ t.preorder r) : t.top a = r := by
  have hlast := (h.getLast?_ancestors hr).mpr (h.mem_preorder.mp ha)
  rw [List.getLast?_eq_getLast_of_ne_nil (List.cons_ne_nil a _)] at hlast
  exact Option.some.inj hlast

/-- Nodes below one root compare as their positions in its list. -/
theorem compare_of_mem (hr : t.parent? r = none) (ha : a ∈ t.preorder r) (hb : b ∈ t.preorder r) :
    t.compare a b = Ord.compare ((t.preorder r).idxOf a) ((t.preorder r).idxOf b) := by
  have hta := h.top_eq_of_mem hr ha
  have htb := h.top_eq_of_mem hr hb
  have hcompare := h.compare_of_same (hta.trans htb.symm)
  rwa [hta] at hcompare

theorem compare_asymm (hab : t.compare a b = .lt) : t.compare b a ≠ .lt := by
  rw [h.compare_swap, hab]
  decide

/-- What is below a node is sorted, whether the node is a root or not. -/
theorem pairwise_descendants (n : NodeId) :
    (t.descendants n).Pairwise fun a b => t.compare a b = .lt := by
  have hsub : (t.descendants n).Sublist (t.preorder (t.top n)) :=
    (List.tail_sublist _).trans (h.preorder_sublist_of_mem (h.mem_preorder_top n))
  exact ((h.pairwise_top n).imp And.left).sublist hsub

end Tree.Sound

namespace Page

variable {p : Page} {scope n : NodeId} {list : List Selector}

theorem mem_queryAll (h : p.tree.Sound) : n ∈ p.queryAll scope list ↔
    scope ∈ p.tree.ancestors n ∧ p.isMatch n list none = true := by
  rw [queryAll, List.mem_filter, h.mem_descendants]

theorem pairwise_queryAll (h : p.tree.Sound) (scope : NodeId) (list : List Selector) :
    (p.queryAll scope list).Pairwise fun a b => p.tree.compare a b = .lt :=
  (h.pairwise_descendants scope).sublist List.filter_sublist

theorem query?_eq_head? : p.query? scope list = (p.queryAll scope list).head? :=
  List.head?_filter.symm

end Page

namespace Document

theorem queryAll_eq (d : Document) (scope : NodeId) {text : String} {list : List Selector}
    (htext : selectors text = .ok list) :
    d.queryAll scope text = .ok (d.page.queryAll scope list) := by
  rw [queryAll, htext]
  rfl

theorem query?_eq (d : Document) (scope : NodeId) {text : String} {list : List Selector}
    (htext : selectors text = .ok list) :
    d.query? scope text = .ok (d.page.query? scope list) := by
  rw [query?, htext]
  rfl

/-- After any operations, the list of a root holds each node of its tree once, and two of them
compare as their positions in it. For every text that lists selectors, a query for all descendants
of a node that match finds exactly these, strictly increasing for the comparison, and a query for
one of them finds the one that is less than all others, if there is any. -/
theorem treeOrder_run (doctype : Option String) (o : Options) (os : List Operation) :
    let d := (create doctype o).run os
    let t := d.page.tree
    (∀ r, t.parent? r = none → (t.preorder r).Nodup ∧
      ∀ a b, t.isInclusiveAncestor r a = true → t.isInclusiveAncestor r b = true →
        a ∈ t.preorder r ∧ b ∈ t.preorder r ∧
          t.compare a b = Ord.compare ((t.preorder r).idxOf a) ((t.preorder r).idxOf b)) ∧
      ∀ scope text list, selectors text = .ok list → ∃ nodes first,
        d.queryAll scope text = .ok nodes ∧ d.query? scope text = .ok first ∧
          (∀ n, n ∈ nodes ↔ scope ∈ t.ancestors n ∧ d.page.isMatch n list none = true) ∧
          nodes.Pairwise (fun a b => t.compare a b = .lt) ∧
          ∀ n, first = some n ↔ n ∈ nodes ∧ ∀ m ∈ nodes, m ≠ n → t.compare n m = .lt := by
  intro d t
  have hsound : t.Sound := (run_valid doctype o os).toSound
  constructor
  · intro r hr
    refine ⟨hsound.nodup_preorder r, ?_⟩
    intro a b ha hb
    rw [Tree.Sound.isInclusiveAncestor_iff, @eq_comm _ r, ← hsound.mem_preorder] at ha hb
    exact ⟨ha.2, hb.2, hsound.compare_of_mem hr ha.2 hb.2⟩
  · intro scope text list htext
    have hsorted := Page.pairwise_queryAll hsound scope list
    refine ⟨_, _, d.queryAll_eq scope htext, d.query?_eq scope htext,
      fun n => Page.mem_queryAll hsound, hsorted, ?_⟩
    intro n
    rw [Page.query?_eq_head?]
    exact head?_eq_some_iff_of_pairwise hsound.compare_asymm hsorted

/-- The second paragraph was made before the first. -/
theorem treeOrder_run_paragraphs :
    let d := (create none .default).run [.createElement "div", .createElement "p",
      .createElement "p", .insertBefore 1 3 none, .insertBefore 1 2 none]
    let t := d.page.tree
    t.parent? 1 = none ∧ t.isInclusiveAncestor 1 3 = true ∧ t.isInclusiveAncestor 1 2 = true ∧
      t.compare 3 2 = Ord.compare 1 2 ∧ (∃ list, selectors "p" = .ok list) ∧
      d.queryAll 1 "p" = .ok [3, 2] ∧ d.query? 1 "p" = .ok (some 3) := by
  intro d t
  have hr : t.parent? 1 = none := by decide
  have h₃ : t.isInclusiveAncestor 1 3 = true := by decide
  have h₂ : t.isInclusiveAncestor 1 2 = true := by decide
  obtain ⟨horder, hquery⟩ := treeOrder_run none .default [.createElement "div",
    .createElement "p", .createElement "p", .insertBefore 1 3 none, .insertBefore 1 2 none]
  have hcompare : t.compare 3 2 = Ord.compare 1 2 := ((horder 1 hr).2 3 2 h₃ h₂).2.2
  have hread : (Selector.parseList? "p").any
      (fun list => d.page.queryAll 1 list == [3, 2]) = true := by
    decide +kernel
  obtain ⟨list, hlist, hfound⟩ := (Option.any_eq_true _ _).mp hread
  have htext : selectors "p" = .ok list := by rw [selectors, hlist]
  obtain ⟨nodes, first, hnodes, hfirst, -, -, hleast⟩ := hquery 1 "p" list htext
  have hall : d.queryAll 1 "p" = .ok [3, 2] := by
    rw [d.queryAll_eq 1 htext, beq_iff_eq.mp hfound]
  obtain rfl : nodes = [3, 2] := Except.ok.inj (hnodes.symm.trans hall)
  have hthree : first = some 3 := by
    rw [hleast]
    refine ⟨List.mem_cons_self, ?_⟩
    intro m hm hne
    obtain rfl : m = 2 := by simpa [hne] using hm
    exact hcompare
  exact ⟨hr, h₃, h₂, hcompare, ⟨list, htext⟩, hall, hthree ▸ hfirst⟩

end Document

end StyleTree
