import Mathlib.Logic.Relation
import StyleTree.Proofs.Tree.Links
import StyleTree.Proofs.Tree.Walk

/-!
# Sound trees

A tree is sound if its links make every node the parent of a list of children and lead upwards to a
root. In a sound tree the lists that are read off by walking are the ones that the links mean: the
children of a node are the nodes whose parent it is, the ancestors of a node are its parent and the
ancestors of that. New nodes, other data, taking out and putting in keep a tree sound.
-/

namespace StyleTree.Tree

structure Sound (t : Tree) : Prop where
  childList : ∀ p, ∃ cs, t.ChildList p cs
  /-- A root has no siblings. -/
  alone : ∀ n, t.parent? n = none → t.prevSibling? n = none ∧ t.nextSibling? n = none
  /-- No node is above itself. -/
  acyclic : ∀ n, Acc (fun p c => t.parent? c = some p) n

/-! ## Children -/

section Chain

variable {t : Tree} {before after : Option NodeId} {cs : List NodeId}

theorem Chain.forward (h : t.Chain before cs none) :
    t.Walk (·.nextSibling) cs.head? cs := by
  induction cs generalizing before with
  | nil => exact .done
  | cons c cs ih =>
    obtain ⟨-, hn, hc⟩ := h
    refine .step ?_
    show t.Walk _ (t.nextSibling? c) cs
    rw [hn, Option.or_none]
    exact ih hc

theorem Chain.backward (h : t.Chain none cs after) :
    t.Walk (·.prevSibling) cs.getLast? cs.reverse := by
  induction cs using List.reverseRecOn generalizing after with
  | nil => exact .done
  | append_singleton cs c ih =>
    obtain ⟨hcs, hp, -⟩ := chain_append.mp h
    simp only [List.getLast?_append, List.getLast?_singleton, Option.some_or, List.reverse_append,
      List.reverse_singleton, List.singleton_append]
    refine .step ?_
    show t.Walk _ (t.prevSibling? c) cs.reverse
    rw [hp, Option.or_none]
    exact ih hcs

end Chain

namespace ChildList

variable {t : Tree} {p c : NodeId} {cs xs ys : List NodeId}

theorem length_le (h : t.ChildList p cs) : cs.length ≤ t.nodes.size :=
  length_le_size h.nodup fun _ hc => h.has hc

theorem children_eq (h : t.ChildList p cs) : t.children p = cs := by
  rw [children, h.first, h.chain.forward.walk_eq h.length_le]

theorem following_eq (h : t.ChildList p (xs ++ c :: ys)) : t.following c = ys := by
  have hw := (chain_append.mp h.chain).2
  have hlen := h.length_le
  rw [following, hw.2.1, Option.or_none, hw.2.2.forward.walk_eq]
  simp at hlen
  omega

theorem preceding_eq (h : t.ChildList p (xs ++ c :: ys)) : t.preceding c = xs.reverse := by
  obtain ⟨hxs, hp, -⟩ := chain_append.mp h.chain
  have hlen := h.length_le
  rw [preceding, hp, Option.or_none, hxs.backward.walk_eq]
  simp at hlen ⊢
  omega

end ChildList

namespace Sound

variable {t : Tree} (h : t.Sound)

include h

theorem childList_children (p : NodeId) : t.ChildList p (t.children p) := by
  obtain ⟨cs, hcs⟩ := h.childList p
  rwa [hcs.children_eq]

theorem mem_children {p c : NodeId} : c ∈ t.children p ↔ t.parent? c = some p :=
  (h.childList_children p).mem c

theorem nodup_children (p : NodeId) : (t.children p).Nodup :=
  (h.childList_children p).nodup

theorem has_parent {p c : NodeId} (hc : t.parent? c = some p) : t.has p = true := by
  obtain ⟨xs, ys, he⟩ := List.append_of_mem (h.mem_children.mpr hc)
  have hcl := h.childList_children p
  rw [he] at hcl
  exact hcl.has_self

/-- The siblings around a child. -/
theorem siblings {p c : NodeId} {xs ys : List NodeId} (he : t.children p = xs ++ c :: ys) :
    t.preceding c = xs.reverse ∧ t.following c = ys := by
  have hcl := h.childList_children p
  rw [he] at hcl
  exact ⟨hcl.preceding_eq, hcl.following_eq⟩

theorem nextSibling?_eq {p c : NodeId} {xs ys : List NodeId} (he : t.children p = xs ++ c :: ys) :
    t.nextSibling? c = ys.head? := by
  have hcl := h.childList_children p
  rw [he] at hcl
  simpa using (chain_append.mp hcl.chain).2.2.1

theorem siblings_of_root {n : NodeId} (hn : t.parent? n = none) :
    t.preceding n = [] ∧ t.following n = [] := by
  obtain ⟨hp, hn⟩ := h.alone n hn
  constructor
  · rw [preceding, hp]
    cases t.nodes.size <;> rfl
  · rw [following, hn]
    cases t.nodes.size <;> rfl

/-! ## Ancestors -/

theorem exists_walk (n : NodeId) : ∃ l, t.Walk (·.parent) (some n) l := by
  induction h.acyclic n with
  | intro n _ ih =>
    cases hp : t.parent? n with
    | none => exact ⟨[n], .step (by change t.Walk _ (t.parent? n) []; rw [hp]; exact .done)⟩
    | some p =>
      obtain ⟨l, hl⟩ := ih p hp
      exact ⟨n :: l, .step (by change t.Walk _ (t.parent? n) l; rw [hp]; exact hl)⟩

theorem walk_ancestors (n : NodeId) : t.Walk (·.parent) (t.parent? n) (t.ancestors n) := by
  obtain ⟨l, hl⟩ := h.exists_walk n
  cases hl with
  | step hl =>
    change t.Walk _ (t.parent? n) _ at hl
    have hhas := hl.has_of_mem (fun _ _ hk => h.has_parent hk) fun _ hk => h.has_parent hk
    rw [ancestors, hl.walk_eq (length_le_size hl.nodup hhas)]
    exact hl

theorem ancestors_of_root {n : NodeId} (hn : t.parent? n = none) : t.ancestors n = [] := by
  have hw := h.walk_ancestors n
  rw [hn] at hw
  exact hw.unique .done

theorem ancestors_of_child {p c : NodeId} (hc : t.parent? c = some p) :
    t.ancestors c = p :: t.ancestors p := by
  have hw := h.walk_ancestors c
  rw [hc] at hw
  exact hw.unique (.step (h.walk_ancestors p))

theorem has_ancestor {n a : NodeId} (ha : a ∈ t.ancestors n) : t.has a = true :=
  (h.walk_ancestors n).has_of_mem (fun _ _ hk => h.has_parent hk) (fun _ hk => h.has_parent hk) a ha

theorem not_mem_ancestors (n : NodeId) : n ∉ t.ancestors n :=
  (h.walk_ancestors n).not_mem

theorem nodup_ancestors (n : NodeId) : (n :: t.ancestors n).Nodup :=
  List.nodup_cons.mpr ⟨h.not_mem_ancestors n, (h.walk_ancestors n).nodup⟩

/-- A node has fewer ancestors than there are nodes. -/
theorem length_ancestors_lt {n : NodeId} (hn : t.has n = true) :
    (t.ancestors n).length < t.nodes.size := by
  refine length_le_size (h.nodup_ancestors n) fun m hm => ?_
  rcases List.mem_cons.mp hm with rfl | hm
  · exact hn
  · exact h.has_ancestor hm

theorem parent_ne {p c : NodeId} (hc : t.parent? c = some p) : p ≠ c := by
  rintro rfl
  apply h.not_mem_ancestors p
  rw [h.ancestors_of_child hc]
  exact List.mem_cons_self

/-- An ancestor of an ancestor is one. -/
theorem ancestors_subset {n a : NodeId} (ha : a ∈ t.ancestors n) :
    t.ancestors a ⊆ t.ancestors n := by
  obtain ⟨l₁, l₂, he, hw⟩ := (h.walk_ancestors n).from_mem ha
  have hl : l₂ = t.ancestors a := hw.unique (h.walk_ancestors a)
  intro b hb
  rw [he, hl]
  simp [hb]

/-- A node with an ancestor has a parent, which is that ancestor or has it. -/
theorem exists_parent {n a : NodeId} (ha : a ∈ t.ancestors n) :
    ∃ p, t.parent? n = some p ∧ (a = p ∨ a ∈ t.ancestors p) := by
  cases hp : t.parent? n with
  | none => simp [h.ancestors_of_root hp] at ha
  | some p =>
    rw [h.ancestors_of_child hp, List.mem_cons] at ha
    exact ⟨p, rfl, ha⟩

/-- A node is not above its parent. -/
theorem not_above_parent {p c : NodeId} (hc : t.parent? c = some p) :
    ¬(p = c ∨ c ∈ t.ancestors p) := by
  rintro (hpc | hmem)
  · exact h.parent_ne hc hpc
  · have := h.ancestors_subset hmem
    rw [h.ancestors_of_child hc] at this
    exact h.not_mem_ancestors p (this List.mem_cons_self)

/-- Where the way up is the same, the ancestors are. -/
theorem ancestors_congr {u : Tree} (hu : u.Sound) {n : NodeId}
    (hup : ∀ a ∈ n :: t.ancestors n, u.parent? a = t.parent? a) :
    u.ancestors n = t.ancestors n := by
  induction h.acyclic n with
  | intro n _ ih =>
    cases hp : t.parent? n with
    | none => rw [h.ancestors_of_root hp, hu.ancestors_of_root ((hup n (by simp)).trans hp)]
    | some p =>
      rw [h.ancestors_of_child hp] at hup ⊢
      rw [hu.ancestors_of_child ((hup n (by simp)).trans hp)]
      rw [ih p hp fun a ha => hup a (List.mem_cons_of_mem n ha)]

omit h in
theorem isInclusiveAncestor_iff {a n : NodeId} :
    t.isInclusiveAncestor a n = true ↔ t.has n = true ∧ (a = n ∨ a ∈ t.ancestors n) := by
  unfold isInclusiveAncestor inclusiveAncestors
  split <;> simp_all

/-- Whoever is above a child is the child or above its parent. -/
theorem isInclusiveAncestor_of_child {p c a : NodeId} (hc : t.parent? c = some p) :
    t.isInclusiveAncestor a c = true ↔ a = c ∨ t.isInclusiveAncestor a p = true := by
  rw [isInclusiveAncestor_iff, isInclusiveAncestor_iff, h.ancestors_of_child hc, List.mem_cons,
    and_iff_right (has_of_parent hc), and_iff_right (h.has_parent hc)]

end Sound

end StyleTree.Tree
