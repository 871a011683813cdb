import StyleTree.Proofs.Tree.Preorder

/-!
# Tree order

Of two nodes below one root, the one that the list of the root holds first is the one that `compare`
puts first: the list of a root is sorted.
-/

namespace StyleTree.Tree

/-- The way down from the root to the node. -/
def path (t : Tree) (n : NodeId) : List NodeId :=
  (n :: t.ancestors n).reverse

/-- The paths lead to a node and to one after it. -/
def Before (t : Tree) (xs ys : List NodeId) : Prop :=
  t.comparePaths xs ys = .lt ∧ t.comparePaths ys xs = .gt

namespace Before

variable {t : Tree} {xs ys : List NodeId}

theorem nil {x : NodeId} : t.Before [] (x :: xs) :=
  ⟨rfl, rfl⟩

theorem cons {x : NodeId} : t.Before (x :: xs) (x :: ys) ↔ t.Before xs ys := by
  simp [Before, comparePaths]

theorem append_left {as : List NodeId} : t.Before (as ++ xs) (as ++ ys) ↔ t.Before xs ys := by
  induction as with
  | nil => rfl
  | cons a as ih => rw [List.cons_append, List.cons_append, cons, ih]

theorem irrefl : ¬t.Before xs xs := by
  intro hbefore
  cases hbefore.1.symm.trans hbefore.2

theorem siblings {x y : NodeId} (hne : x ≠ y) (hxy : y ∈ t.following x) (hyx : x ∉ t.following y) :
    t.Before (x :: xs) (y :: ys) := by
  simp [Before, comparePaths, hne, hne.symm, hxy, hyx]

end Before

namespace Sound

variable {t : Tree} (h : t.Sound)

include h

theorem path_of_root {n : NodeId} (hn : t.parent? n = none) : t.path n = [n] := by
  rw [path, h.ancestors_of_root hn]
  rfl

theorem path_of_child {p c : NodeId} (hc : t.parent? c = some p) : t.path c = t.path p ++ [c] := by
  rw [path, h.ancestors_of_child hc, List.reverse_cons]
  rfl

/-- The way to a node below `n` goes over `n`. -/
theorem path_of_mem {n m : NodeId} (hm : m ∈ t.preorder n) : ∃ xs, t.path m = t.path n ++ xs := by
  induction h.acyclic m with
  | intro m _ ih =>
    rcases h.mem_preorder.mp hm with rfl | hnm
    · exact ⟨[], (List.append_nil _).symm⟩
    · obtain ⟨p, hp, hnp⟩ := h.exists_parent hnm
      obtain ⟨xs, hxs⟩ := ih p hp (h.mem_preorder.mpr (hnp.imp_left Eq.symm))
      exact ⟨xs ++ [m], by rw [h.path_of_child hp, hxs, List.append_assoc]⟩

theorem path_of_mem_child {p c m : NodeId} (hc : t.parent? c = some p) (hm : m ∈ t.preorder c) :
    ∃ xs, t.path m = t.path p ++ c :: xs := by
  obtain ⟨xs, hxs⟩ := h.path_of_mem hm
  refine ⟨xs, ?_⟩
  rw [hxs, h.path_of_child hc, List.append_assoc]
  rfl

/-- What is below a child comes before what is below a later one. -/
theorem before_of_siblings {p c d a b : NodeId} {xs ys : List NodeId}
    (he : t.children p = xs ++ c :: ys) (hd : d ∈ ys) (ha : a ∈ t.preorder c)
    (hb : b ∈ t.preorder d) : t.Before (t.path a) (t.path b) := by
  have hmem : ∀ e ∈ xs ++ c :: ys, t.parent? e = some p := by
    intro e hmem
    rwa [← he, h.mem_children] at hmem
  obtain ⟨as, has⟩ := h.path_of_mem_child (hmem c (by simp)) ha
  obtain ⟨bs, hbs⟩ := h.path_of_mem_child (hmem d (by simp [hd])) hb
  have hnd := h.nodup_children p
  rw [he, List.nodup_append] at hnd
  have hcd : c ∉ ys := (List.nodup_cons.mp hnd.2.1).1
  rw [has, hbs, Before.append_left]
  refine .siblings ?_ ?_ ?_
  · rintro rfl
    exact hcd hd
  · rwa [(h.siblings he).2]
  · obtain ⟨ys₁, ys₂, rfl⟩ := List.append_of_mem hd
    have he' : t.children p = (xs ++ c :: ys₁) ++ d :: ys₂ := by simp [he]
    rw [(h.siblings he').2]
    intro hc
    exact hcd (by simp [hc])

/-- The paths of the list are in order. -/
theorem pairwise_before (n : NodeId) :
    (t.preorder n).Pairwise fun a b => t.Before (t.path a) (t.path b) := by
  apply h.pairwise_pruned (fun _ => false) _ h.before_of_siblings
  intro a b ha
  obtain ⟨c, hc, hcb⟩ := h.mem_ancestors.mp ha
  obtain ⟨xs, hxs⟩ := h.path_of_mem_child hc (h.mem_preorder.mpr (hcb.imp_left Eq.symm))
  have : t.Before (t.path a ++ []) (t.path a ++ c :: xs) := Before.append_left.mpr .nil
  rwa [List.append_nil, ← hxs] at this

/-- The list of a root is sorted. -/
theorem pairwise_compare {r : NodeId} (hr : t.parent? r = none) (hhas : t.has r = true) :
    (t.preorder r).Pairwise fun a b => t.compare a b = .lt ∧ t.compare b a = .gt := by
  refine (h.pairwise_before r).imp_of_mem ?_
  intro a b ha hb hbefore
  have hpath : ∀ m ∈ t.preorder r, ∃ xs, t.path m = r :: xs ∧
      (t.inclusiveAncestors m).reverse = r :: xs := by
    intro m hm
    obtain ⟨xs, hxs⟩ := h.path_of_mem hm
    rw [h.path_of_root hr, List.singleton_append] at hxs
    refine ⟨xs, hxs, ?_⟩
    rw [inclusiveAncestors, if_pos (h.has_of_mem_preorder hhas hm)]
    exact hxs
  obtain ⟨xs, hxs, hup⟩ := hpath a ha
  obtain ⟨ys, hys, hup'⟩ := hpath b hb
  rw [hxs, hys, Before.cons] at hbefore
  have hne : a ≠ b := by
    rintro rfl
    obtain rfl : xs = ys := List.tail_eq_of_cons_eq (hxs.symm.trans hys)
    exact Before.irrefl hbefore
  unfold compare
  rw [if_neg hne, if_neg (Ne.symm hne), hup, hup']
  simpa [Before] using hbefore

theorem nodup_preorder (n : NodeId) : (t.preorder n).Nodup :=
  h.nodup_pruned _ n

end Sound

end StyleTree.Tree
