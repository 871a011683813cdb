import StyleTree.Proofs.Tree.Changes
import StyleTree.Proofs.Tree.Traversal

/-!
# Nodes and their descendants

The list of a node and its descendants is the node followed by the lists of its children. It holds
the nodes that the node is above, each once, and what is put in below one of them is put into the
list at one place.
-/

namespace StyleTree.Tree

namespace Sound

variable {t : Tree} (h : t.Sound)

include h

/-! ## The list of a node -/

theorem pruned_eq (skip : NodeId → Bool) (n : NodeId) :
    t.pruned skip n = n :: if skip n then [] else (t.children n).flatMap (t.pruned skip) := by
  have heq : t.pruned skip = t.depthFirst skip := funext (h.pruned_eq_depthFirst skip)
  rw [heq]
  exact h.depthFirst_eq skip n

theorem preorder_eq (n : NodeId) : t.preorder n = n :: (t.children n).flatMap t.preorder :=
  h.pruned_eq _ n

omit h in
theorem mem_preorder_self (n : NodeId) : n ∈ t.preorder n :=
  List.mem_cons_self

/-! ## Whom the list holds -/

/-- The list holds what is below the node, and below no node in between that is skipped. -/
theorem mem_pruned {skip : NodeId → Bool} {m n : NodeId} :
    m ∈ t.pruned skip n ↔ (m = n ∨ n ∈ t.ancestors m) ∧
      ∀ a ∈ t.ancestors m, (a = n ∨ n ∈ t.ancestors a) → skip a = false := by
  rw [h.pruned_eq_depthFirst]
  exact h.mem_depthFirst

theorem mem_preorder {m n : NodeId} : m ∈ t.preorder n ↔ m = n ∨ n ∈ t.ancestors m := by
  simp [preorder, h.mem_pruned]

theorem mem_descendants {m n : NodeId} : m ∈ t.descendants n ↔ n ∈ t.ancestors m := by
  rw [descendants, h.preorder_eq, List.tail_cons, List.mem_flatMap, h.mem_ancestors]
  refine exists_congr fun c => ?_
  rw [h.mem_children, h.mem_preorder, @eq_comm _ m]

/-- A relation from every node to those below it, and from what is below a child to what is below
the later ones, goes from every node of the list to those after it. -/
theorem pairwise_pruned {R : NodeId → NodeId → Prop} (skip : NodeId → Bool)
    (habove : ∀ {a b}, a ∈ t.ancestors b → R a b)
    (hbeside : ∀ {p c d a b xs ys}, t.children p = xs ++ c :: ys → d ∈ ys → a ∈ t.preorder c →
      b ∈ t.preorder d → R a b) (n : NodeId) : (t.pruned skip n).Pairwise R := by
  rw [h.pruned_eq_depthFirst]
  apply h.pairwise_depthFirst skip habove
  intro p c d a b xs ys he hd ha hb
  exact hbeside he hd (h.mem_preorder.mpr ha) (h.mem_preorder.mpr hb)

theorem nodup_pruned (skip : NodeId → Bool) (n : NodeId) : (t.pruned skip n).Nodup := by
  rw [h.pruned_eq_depthFirst]
  exact h.nodup_depthFirst skip n

theorem has_of_mem_preorder {m n : NodeId} (hn : t.has n = true) (hm : m ∈ t.preorder n) :
    t.has m = true := by
  rcases h.mem_preorder.mp hm with rfl | hm
  · exact hn
  · obtain ⟨p, hp, -⟩ := h.exists_parent hm
    exact has_of_parent hp

/-- The node is listed with all that it is above. -/
theorem isInclusiveAncestor_iff_mem {m n : NodeId} (hn : t.has n = true) :
    t.isInclusiveAncestor n m = true ↔ m ∈ t.preorder n := by
  rw [isInclusiveAncestor_iff, h.mem_preorder, @eq_comm _ n m]
  constructor
  · exact fun hm => hm.2
  · intro hm
    exact ⟨h.has_of_mem_preorder hn (h.mem_preorder.mpr hm), hm⟩

/-- The list of a node is a part of the list of every node above it. -/
theorem preorder_sublist_of_mem {m n : NodeId} (hm : m ∈ t.preorder n) :
    (t.preorder m).Sublist (t.preorder n) := by
  induction n using h.induction_down with
  | ih n ih =>
    rw [h.preorder_eq, List.mem_cons, List.mem_flatMap] at hm
    rcases hm with rfl | ⟨c, hc, hm⟩
    · exact List.Sublist.refl _
    · rw [h.preorder_eq n]
      apply List.Sublist.cons
      exact (ih c hc hm).trans (List.sublist_flatten_of_mem (List.mem_map_of_mem hc))

/-- The lists of two children have no node in common. -/
theorem disjoint_preorder {p c d m : NodeId} (hc : t.parent? c = some p)
    (hd : t.parent? d = some p) (hcm : m ∈ t.preorder c) (hdm : m ∈ t.preorder d) : c = d :=
  h.child_unique hc hd (h.mem_preorder.mp hcm) (h.mem_preorder.mp hdm)

/-- A node is not below its child. -/
theorem not_mem_preorder_child {p c : NodeId} (hc : t.parent? c = some p) : p ∉ t.preorder c := by
  rw [h.mem_preorder]
  exact h.not_above_parent hc

/-! ## Connection to the document -/

/-- A node without a parent that is above another one, or the node itself, is the last on the way
up. -/
theorem getLast?_ancestors {n r : NodeId} (hr : t.parent? r = none) :
    (n :: t.ancestors n).getLast? = some r ↔ n = r ∨ r ∈ t.ancestors n := by
  constructor
  · intro hlast
    rcases List.mem_cons.mp (List.mem_of_getLast? hlast) with rfl | hmem
    · exact .inl rfl
    · exact .inr hmem
  · rintro (rfl | hmem)
    · rw [h.ancestors_of_root hr]
      rfl
    · obtain ⟨l₁, l₂, he, hw⟩ := (h.walk_ancestors n).from_mem hmem
      have hl : l₂ = t.ancestors r := hw.unique (h.walk_ancestors r)
      rw [he, hl, h.ancestors_of_root hr, ← List.cons_append, List.getLast?_append]
      rfl

theorem isConnected_iff (hr : t.parent? root = none) (hroot : t.has root = true) {n : NodeId} :
    t.isConnected n = true ↔ n ∈ t.preorder root := by
  rw [h.mem_preorder, isConnected, inclusiveAncestors, beq_iff_eq]
  split
  · exact h.getLast?_ancestors hr
  next hn =>
    constructor
    · intro hlast
      cases hlast
    · intro hmem
      exact absurd (h.has_of_mem_preorder hroot (h.mem_preorder.mpr hmem)) hn

/-! ## The same children -/

/-- Where the children are the same, and the nodes whose descendants are left out, the list is. -/
theorem pruned_congr {u : Tree} (hu : u.Sound) {n : NodeId} {skip skip' : NodeId → Bool}
    (hchildren : ∀ m ∈ t.preorder n, u.children m = t.children m)
    (hskip : ∀ m ∈ t.preorder n, skip' m = skip m) : u.pruned skip' n = t.pruned skip n := by
  induction n using h.induction_down with
  | ih n ih =>
    rw [h.preorder_eq] at hchildren hskip
    rw [h.pruned_eq, hu.pruned_eq, hchildren n List.mem_cons_self, hskip n List.mem_cons_self]
    have hbelow : (t.children n).flatMap (u.pruned skip') =
        (t.children n).flatMap (t.pruned skip) := by
      refine List.flatMap_congr fun c hc => ?_
      have hmem : ∀ m ∈ t.preorder c, m ∈ n :: (t.children n).flatMap t.preorder :=
        fun m hm => List.mem_cons_of_mem n (List.mem_flatMap.mpr ⟨c, hc, hm⟩)
      exact ih c hc (fun m hm => hchildren m (hmem m hm)) fun m hm => hskip m (hmem m hm)
    rw [hbelow]

theorem preorder_congr {u : Tree} (hu : u.Sound) {n : NodeId}
    (hsame : ∀ m ∈ t.preorder n, u.children m = t.children m) : u.preorder n = t.preorder n :=
  h.pruned_congr hu hsame fun _ _ => rfl

theorem pruned_subset (skip : NodeId → Bool) (n : NodeId) : t.pruned skip n ⊆ t.preorder n := by
  intro m hm
  rw [h.mem_preorder]
  exact (h.mem_pruned.mp hm).1

/-- Every node after the first has its parent in the list. -/
theorem parent_of_mem_tail {skip : NodeId → Bool} {n m : NodeId}
    (hm : m ∈ (t.pruned skip n).tail) : ∃ a ∈ t.preorder n, t.parent? m = some a := by
  rw [h.pruned_eq, List.tail_cons] at hm
  split at hm
  · cases hm
  obtain ⟨c, hc, hm⟩ := List.mem_flatMap.mp hm
  have hparent := h.mem_children.mp hc
  rcases h.mem_preorder.mp (h.pruned_subset skip c hm) with rfl | habove
  · exact ⟨n, mem_preorder_self n, hparent⟩
  · obtain ⟨a, ha, hca⟩ := h.exists_parent habove
    refine ⟨a, ?_, ha⟩
    rw [h.mem_preorder, h.mem_ancestors]
    exact .inr ⟨c, hparent, hca⟩

end Sound

/-- The text of a node is decided by its children. -/
theorem childText_congr {t u : Tree} {n : NodeId} (hchildren : u.children n = t.children n)
    (hdata : ∀ c ∈ t.children n,
      (u.data? c).bind (·.characterData?) = (t.data? c).bind (·.characterData?)) :
    u.childText n = t.childText n := by
  unfold childText
  rw [hchildren, List.filterMap_congr hdata]

/-! ## Putting in and taking out -/

/-- The tree `u` is `t` with the root `n` put in below `p`, between `xs` and `ys`. -/
structure Graft (t u : Tree) (p n : NodeId) (xs ys : List NodeId) : Prop where
  sound : t.Sound
  sound' : u.Sound
  size : u.nodes.size = t.nodes.size
  root : t.parent? n = none
  parent : ∀ m, u.parent? m = if n = m then some p else t.parent? m
  children : t.children p = xs ++ ys
  children' : u.children p = xs ++ n :: ys
  other : ∀ q, p ≠ q → u.children q = t.children q

namespace Graft

variable {t u : Tree} {p n : NodeId} {xs ys : List NodeId} (g : Graft t u p n xs ys)

include g

theorem ancestors_subset (m : NodeId) : t.ancestors m ⊆ u.ancestors m := by
  induction g.sound.acyclic m with
  | intro m _ ih =>
    cases hm : t.parent? m with
    | none =>
      rw [g.sound.ancestors_of_root hm]
      exact List.nil_subset _
    | some q =>
      have hm' : u.parent? m = some q := by
        rw [g.parent, if_neg, hm]
        rintro rfl
        simp [g.root] at hm
      rw [g.sound.ancestors_of_child hm, g.sound'.ancestors_of_child hm']
      exact List.cons_subset_cons q (ih q hm)

theorem parent_self : u.parent? n = some p := by
  rw [g.parent, if_pos rfl]

theorem not_mem_self : p ∉ t.preorder n := by
  intro hmem
  apply g.sound'.not_mem_preorder_child g.parent_self
  rw [g.sound.mem_preorder] at hmem
  rw [g.sound'.mem_preorder]
  exact hmem.imp_right fun hp => g.ancestors_subset p hp

theorem preorder_other {q : NodeId} (hq : p ∉ t.preorder q) : u.preorder q = t.preorder q := by
  refine g.sound.preorder_congr g.sound' fun m hm => g.other m ?_
  rintro rfl
  exact hq hm

theorem preorder_self : u.preorder n = t.preorder n :=
  g.preorder_other g.not_mem_self

/-- The node and what is below it come into the list at one place. -/
theorem preorder_splice {q : NodeId} (hq : p ∈ t.preorder q) :
    ∃ as bs, t.preorder q = as ++ bs ∧ u.preorder q = as ++ (t.preorder n ++ bs) := by
  -- The lists of children that are not above `p` are the same.
  have hsame : ∀ {l : List NodeId}, (∀ d ∈ l, p ∉ t.preorder d) →
      l.flatMap u.preorder = l.flatMap t.preorder :=
    fun hl => List.flatMap_congr fun d hd => g.preorder_other (hl d hd)
  induction q using g.sound.induction_down with
  | ih q ih =>
    by_cases hpq : p = q
    · subst q
      have hchild : ∀ d ∈ xs ++ ys, p ∉ t.preorder d := by
        intro d hd
        rw [← g.children, g.sound.mem_children] at hd
        exact g.sound.not_mem_preorder_child hd
      refine ⟨p :: xs.flatMap t.preorder, ys.flatMap t.preorder, ?_, ?_⟩
      · rw [g.sound.preorder_eq, g.children, List.flatMap_append, List.cons_append]
      · rw [g.sound'.preorder_eq, g.children', List.flatMap_append, List.flatMap_cons,
          g.preorder_self, hsame fun d hd => hchild d (List.mem_append_left ys hd),
          hsame fun d hd => hchild d (List.mem_append_right xs hd), List.cons_append]
    · -- Exactly one child of `q` is above `p`: what is listed for the others stays.
      rw [g.sound.preorder_eq, List.mem_cons, List.mem_flatMap] at hq
      obtain ⟨c, hc, hpc⟩ := hq.resolve_left hpq
      obtain ⟨as, bs, hold, hnew⟩ := ih c hc hpc
      have hcq := g.sound.mem_children.mp hc
      have hnd := g.sound.nodup_children q
      obtain ⟨l₁, l₂, he⟩ := List.append_of_mem hc
      rw [he, List.nodup_middle, List.nodup_cons] at hnd
      have hbeside : ∀ d ∈ l₁ ++ l₂, p ∉ t.preorder d := by
        intro d hd
        have hdq : t.parent? d = some q := by
          rw [← g.sound.mem_children, he]
          simp only [List.mem_append, List.mem_cons] at hd ⊢
          exact hd.imp_right .inr
        refine fun hpd => hnd.1 ?_
        rwa [g.sound.disjoint_preorder hcq hdq hpc hpd]
      refine ⟨q :: l₁.flatMap t.preorder ++ as, bs ++ l₂.flatMap t.preorder, ?_, ?_⟩
      · rw [g.sound.preorder_eq, he]
        simp [hold]
      · rw [g.sound'.preorder_eq, g.other q hpq, he]
        simp [hnew, hsame fun d hd => hbeside d (List.mem_append_left l₂ hd),
          hsame fun d hd => hbeside d (List.mem_append_right l₁ hd)]

/-- What the node is put in below comes to hold what is below the node. -/
theorem mem_preorder {q m : NodeId} (hq : p ∈ t.preorder q) :
    m ∈ u.preorder q ↔ m ∈ t.preorder q ∨ m ∈ t.preorder n := by
  obtain ⟨as, bs, hold, hnew⟩ := g.preorder_splice hq
  rw [hold, hnew]
  simp only [List.mem_append]
  tauto

theorem preorder_sublist (q : NodeId) : (t.preorder q).Sublist (u.preorder q) := by
  by_cases hq : p ∈ t.preorder q
  · obtain ⟨as, bs, hold, hnew⟩ := g.preorder_splice hq
    rw [hold, hnew]
    exact (List.sublist_append_right _ bs).append_left as
  · rw [g.preorder_other hq]

theorem mem_preorder_of_not_mem {q m : NodeId} (hm : m ∉ t.preorder n) :
    m ∈ u.preorder q ↔ m ∈ t.preorder q := by
  by_cases hq : p ∈ t.preorder q
  · rw [g.mem_preorder hq]
    exact or_iff_left hm
  · rw [g.preorder_other hq]

/-- What is not below the node is listed as before. -/
theorem filter_preorder {q : NodeId} {relevant : NodeId → Bool}
    (hn : ∀ m ∈ t.preorder n, relevant m = false) :
    (u.preorder q).filter relevant = (t.preorder q).filter relevant := by
  by_cases hq : p ∈ t.preorder q
  · obtain ⟨as, bs, hold, hnew⟩ := g.preorder_splice hq
    have hnone : (t.preorder n).filter relevant = [] := by
      rw [List.filter_eq_nil_iff]
      intro m hm
      simp [hn m hm]
    rw [hold, hnew]
    simp [hnone]
  · rw [g.preorder_other hq]

/-- A part of the list without the node and what is below it. -/
theorem sublist_preorder {q : NodeId} {l : List NodeId} (hl : l.Sublist (u.preorder q))
    (hm : ∀ m ∈ l, m ∉ t.preorder n) : l.Sublist (t.preorder q) := by
  by_cases hq : p ∈ t.preorder q
  · obtain ⟨as, bs, hold, hnew⟩ := g.preorder_splice hq
    rw [hnew] at hl
    obtain ⟨l₁, l₂, rfl, h₁, h₂⟩ := List.sublist_append_iff.mp hl
    obtain ⟨l₂, l₃, rfl, h₂, h₃⟩ := List.sublist_append_iff.mp h₂
    have hnil : l₂ = [] := by
      rw [List.eq_nil_iff_forall_not_mem]
      intro m hmem
      exact hm m (by simp [hmem]) (h₂.subset hmem)
    rw [hnil, hold]
    exact h₁.append h₃
  · rwa [← g.preorder_other hq]

/-- The node was nowhere below a root other than itself. -/
theorem not_mem_root {r m : NodeId} (hr : t.parent? r = none) (hne : n ≠ r)
    (hm : m ∈ t.preorder n) : m ∉ t.preorder r := by
  intro hmr
  have hn : (m :: t.ancestors m).getLast? = some n :=
    (g.sound.getLast?_ancestors g.root).mpr (g.sound.mem_preorder.mp hm)
  have hr : (m :: t.ancestors m).getLast? = some r :=
    (g.sound.getLast?_ancestors hr).mpr (g.sound.mem_preorder.mp hmr)
  exact hne (Option.some.inj (hn.symm.trans hr))

end Graft

theorem Insertable.graft {t : Tree} {p n : NodeId} {xs ys : List NodeId}
    (i : t.Insertable p n xs ys) (h : t.Sound) : Graft t (t.link p n ys.head?) p n xs ys where
  sound := h
  sound' := i.sound h
  size := size_link
  root := i.root
  parent := i.parent?_link
  children := i.children
  children' := i.children_link h
  other _ hq := i.children_link_other h hq

theorem Sound.graft_unlink {t : Tree} {p n : NodeId} (h : t.Sound) (hp : t.parent? n = some p) :
    ∃ xs ys, Graft (t.unlink n) t p n xs ys := by
  obtain ⟨xs, ys, he, -⟩ := h.childList_split hp
  refine ⟨xs, ys, h.unlink hp, h, size_unlink.symm, ?_, ?_, ?_, he, ?_⟩
  · rw [parent?_unlink hp, if_pos rfl]
  · intro m
    rw [parent?_unlink hp]
    split
    · subst m
      exact hp
    · rfl
  · exact h.children_unlink he
  · exact fun q hq => (h.children_unlink_other hp hq).symm

end StyleTree.Tree
