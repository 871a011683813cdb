import StyleTree.Proofs.Tree.Sound

/-!
# Traversals

A traversal keeps no list of the nodes above the one at which it stands: it goes from link to link
and counts the levels. `Gives` says which nodes it comes to without a bound on their number. In a
sound tree it gives the list that the recursion over the children makes, `depthFirst`: what is below
a node that is skipped is left out, and nothing else.
-/

namespace StyleTree.Tree

/-! ## What a traversal gives -/

/-- Taking step after step, and skipping the descendants of every node that satisfies `skip` right
after it, the traversal gives exactly the nodes of the list and comes to its end. -/
inductive Traversal.Gives (t : Tree) (skip : NodeId → Bool) : Traversal → List NodeId → Prop where
  | done {s : Traversal} (h : s.next? t = none) : Gives t skip s []
  | step {s s' : Traversal} {n : NodeId} {l : List NodeId} (hn : s.next? t = some (n, s'))
    (h : Gives t skip (if skip n then s'.skipChildren t else s') l) : Gives t skip s (n :: l)

namespace Traversal.Gives

variable {t : Tree} {skip : NodeId → Bool} {s : Traversal} {l l' : List NodeId}

theorem unique (h : Gives t skip s l) (h' : Gives t skip s l') : l = l' := by
  induction h generalizing l' with
  | done hn =>
    cases h' with
    | done => rfl
    | step hn' => simp [hn] at hn'
  | step hn _ ih =>
    cases h' with
    | done hn' => simp [hn] at hn'
    | step hn' h' =>
      simp only [hn, Option.some.injEq, Prod.mk.injEq] at hn'
      obtain ⟨rfl, rfl⟩ := hn'
      rw [ih h']

theorem nodes_eq (h : Gives t skip s l) {limit : Nat} (hl : l.length ≤ limit) :
    s.nodes t skip limit = l := by
  induction h generalizing limit with
  | done hn =>
    cases limit with
    | zero => rfl
    | succ limit => simp [nodes, hn]
  | step hn _ ih =>
    cases limit with
    | zero => simp at hl
    | succ limit =>
      rw [List.length_cons] at hl
      simp only [nodes, hn]
      rw [ih (by omega)]

end Traversal.Gives

/-! ## The recursion over the children -/

/-- The node and its descendants in tree order, down to the depth `limit`. The descendants of nodes
that satisfy `skip` are left out. -/
def preorderUpTo (t : Tree) (skip : NodeId → Bool) : Nat → NodeId → List NodeId
  | 0, _ => []
  | limit + 1, n =>
    n :: if skip n then [] else (t.children n).flatMap (t.preorderUpTo skip limit)

/-- The node, unless it is skipped followed by what the same recursion makes of its children. The
bound on the depth is never reached. -/
def depthFirst (t : Tree) (skip : NodeId → Bool) (n : NodeId) : List NodeId :=
  t.preorderUpTo skip (t.nodes.size + 1) n

namespace Sound

variable {t : Tree} (h : t.Sound)

include h

/-! ## Induction downwards -/

/-- What holds of a node if it holds of its children holds of all nodes. -/
theorem induction_down {P : NodeId → Prop} (ih : ∀ n, (∀ c ∈ t.children n, P c) → P n)
    (n : NodeId) : P n := by
  -- A child has one ancestor more, and no node has more ancestors than there are nodes.
  have hdown : ∀ k n, t.nodes.size - (t.ancestors n).length ≤ k → P n := by
    intro k
    induction k with
    | zero =>
      intro n hk
      refine ih n fun c hc => ?_
      have hc := h.mem_children.mp hc
      have := h.length_ancestors_lt (h.has_parent hc)
      omega
    | succ k hind =>
      intro n hk
      refine ih n fun c hc => hind c ?_
      have hc := h.mem_children.mp hc
      have := h.length_ancestors_lt (h.has_parent hc)
      rw [h.ancestors_of_child hc, List.length_cons]
      omega
  exact hdown _ n le_rfl

theorem mem_ancestors {a n : NodeId} :
    a ∈ t.ancestors n ↔ ∃ c, t.parent? c = some a ∧ (c = n ∨ c ∈ t.ancestors n) := by
  induction h.acyclic n with
  | intro n _ ih =>
    cases hp : t.parent? n with
    | none =>
      rw [h.ancestors_of_root hp]
      simp [hp]
    | some p =>
      rw [h.ancestors_of_child hp, List.mem_cons, ih p hp]
      constructor
      · rintro (rfl | ⟨c, hc, hcp⟩)
        · exact ⟨n, hp, .inl rfl⟩
        · exact ⟨c, hc, .inr (List.mem_cons.mpr hcp)⟩
      · rintro ⟨c, hc, rfl | hcp⟩
        · exact .inl (Option.some.inj (hc.symm.trans hp))
        · exact .inr ⟨c, hc, List.mem_cons.mp hcp⟩

/-- Only one child of a node is above another node, or that node itself. -/
theorem child_unique {p c d m : NodeId} (hc : t.parent? c = some p) (hd : t.parent? d = some p)
    (hcm : m = c ∨ c ∈ t.ancestors m) (hdm : m = d ∨ d ∈ t.ancestors m) : c = d := by
  have hup : ∀ {c d}, t.parent? c = some p → t.parent? d = some p → c ∉ t.ancestors d := by
    intro c d hc hd hmem
    rw [h.ancestors_of_child hd, List.mem_cons] at hmem
    exact h.not_above_parent hc (hmem.imp_left Eq.symm)
  induction h.acyclic m with
  | intro m _ ih =>
    rcases hcm with rfl | hcm
    · exact hdm.resolve_right (hup hd hc)
    · rcases hdm with rfl | hdm
      · exact absurd hcm (hup hc hd)
      · obtain ⟨q, hm, hcq⟩ := h.exists_parent hcm
        rw [h.ancestors_of_child hm, List.mem_cons] at hdm
        exact ih q hm (hcq.imp_left Eq.symm) (hdm.imp_left Eq.symm)

/-- What is between a node and one below it is at or below the child that leads there. -/
theorem between_child {a c m n : NodeId} (hc : t.parent? c = some n)
    (hcm : m = c ∨ c ∈ t.ancestors m) (ha : a ∈ t.ancestors m) (hna : n ∈ t.ancestors a) :
    a = c ∨ c ∈ t.ancestors a := by
  obtain ⟨d, hd, hda⟩ := h.mem_ancestors.mp hna
  have hdm : d ∈ t.ancestors m := by
    rcases hda with rfl | hda
    · exact ha
    · exact h.ancestors_subset ha hda
  obtain rfl := h.child_unique hc hd hcm (.inr hdm)
  exact hda.imp_left Eq.symm

/-! ## What the recursion lists -/

theorem preorderUpTo_congr {skip : NodeId → Bool} {n : NodeId} {limit limit' : Nat}
    (hl : t.nodes.size < (t.ancestors n).length + limit)
    (hl' : t.nodes.size < (t.ancestors n).length + limit') (hn : t.has n = true) :
    t.preorderUpTo skip limit n = t.preorderUpTo skip limit' n := by
  have hlen := h.length_ancestors_lt hn
  induction limit generalizing n limit' with
  | zero => omega
  | succ limit ih =>
    cases limit' with
    | zero => omega
    | succ limit' =>
      rw [preorderUpTo, preorderUpTo]
      split
      · rfl
      · congr 1
        refine List.flatMap_congr fun c hc => ?_
        have hc := h.mem_children.mp hc
        have hlen := h.length_ancestors_lt (has_of_parent hc)
        rw [h.ancestors_of_child hc, List.length_cons] at hlen
        refine ih ?_ ?_ (has_of_parent hc) ?_
        all_goals rw [h.ancestors_of_child hc, List.length_cons]; omega

theorem depthFirst_eq (skip : NodeId → Bool) (n : NodeId) : t.depthFirst skip n =
    n :: if skip n then [] else (t.children n).flatMap (t.depthFirst skip) := by
  rw [depthFirst, preorderUpTo]
  split
  · rfl
  · congr 1
    refine List.flatMap_congr fun c hc => ?_
    have hc := h.mem_children.mp hc
    have hlen : (t.ancestors c).length = (t.ancestors n).length + 1 := by
      rw [h.ancestors_of_child hc, List.length_cons]
    exact h.preorderUpTo_congr (by omega) (by omega) (has_of_parent hc)

/-- The list holds what is below the node, and below no node in between that is skipped. -/
theorem mem_depthFirst {skip : NodeId → Bool} {m n : NodeId} :
    m ∈ t.depthFirst skip n ↔ (m = n ∨ n ∈ t.ancestors m) ∧
      ∀ a ∈ t.ancestors m, (a = n ∨ n ∈ t.ancestors a) → skip a = false := by
  induction n using h.induction_down with
  | ih n ih =>
    have hself : ∀ a ∈ t.ancestors n, ¬(a = n ∨ n ∈ t.ancestors a) := by
      rintro a ha (rfl | hna)
      · exact h.not_mem_ancestors a ha
      · exact h.not_mem_ancestors n (h.ancestors_subset ha hna)
    rw [h.depthFirst_eq, List.mem_cons]
    constructor
    · rintro (rfl | hm)
      · exact ⟨.inl rfl, fun a ha hbetween => absurd hbetween (hself a ha)⟩
      · cases hskip : skip n with
        | true => simp [hskip] at hm
        | false =>
          simp only [hskip, Bool.false_eq_true, if_false, List.mem_flatMap] at hm
          obtain ⟨c, hc, hm⟩ := hm
          rw [ih c hc] at hm
          obtain ⟨hcm, hbetween⟩ := hm
          have hc := h.mem_children.mp hc
          refine ⟨.inr (h.mem_ancestors.mpr ⟨c, hc, hcm.imp_left Eq.symm⟩), ?_⟩
          intro a ha hna
          rcases hna with rfl | hna
          · exact hskip
          · exact hbetween a ha (h.between_child hc hcm ha hna)
    · rintro ⟨rfl | hnm, hbetween⟩
      · exact .inl rfl
      · have hskip : skip n = false := hbetween n hnm (.inl rfl)
        obtain ⟨c, hc, hcm⟩ := h.mem_ancestors.mp hnm
        right
        simp only [hskip, Bool.false_eq_true, if_false, List.mem_flatMap]
        refine ⟨c, h.mem_children.mpr hc, (ih c (h.mem_children.mpr hc)).mpr
          ⟨hcm.imp_left Eq.symm, ?_⟩⟩
        intro a ha hca
        apply hbetween a ha
        exact .inr (h.mem_ancestors.mpr ⟨c, hc, hca.imp_left Eq.symm⟩)

/-- A relation from every node to those below it, and from what is below a child to what is below
the later ones, goes from every node of the list to those after it. -/
theorem pairwise_depthFirst {R : NodeId → NodeId → Prop} (skip : NodeId → Bool)
    (habove : ∀ {a b}, a ∈ t.ancestors b → R a b)
    (hbeside : ∀ {p c d a b xs ys}, t.children p = xs ++ c :: ys → d ∈ ys →
      (a = c ∨ c ∈ t.ancestors a) → (b = d ∨ d ∈ t.ancestors b) → R a b) (n : NodeId) :
    (t.depthFirst skip n).Pairwise R := by
  induction n using h.induction_down with
  | ih n ih =>
    rw [h.depthFirst_eq]
    by_cases hskip : skip n = true
    · simp [hskip]
    · rw [if_neg hskip, List.pairwise_cons, List.pairwise_flatMap]
      refine ⟨?_, ih, ?_⟩
      · intro m hm
        obtain ⟨c, hc, hm⟩ := List.mem_flatMap.mp hm
        apply habove
        rw [h.mem_ancestors]
        exact ⟨c, h.mem_children.mp hc, (h.mem_depthFirst.mp hm).1.imp_left Eq.symm⟩
      · -- By induction on the children that are left, `ys`.
        have hlater : ∀ xs ys, t.children n = xs ++ ys → ys.Pairwise fun c d =>
            ∀ a ∈ t.depthFirst skip c, ∀ b ∈ t.depthFirst skip d, R a b := by
          intro xs ys
          induction ys generalizing xs with
          | nil => exact fun _ => .nil
          | cons c ys hind =>
            intro he
            refine .cons ?_ (hind (xs ++ [c]) (by simp [he]))
            intro d hd a ha b hb
            exact hbeside he hd (h.mem_depthFirst.mp ha).1 (h.mem_depthFirst.mp hb).1
        exact hlater [] _ rfl

theorem nodup_depthFirst (skip : NodeId → Bool) (n : NodeId) : (t.depthFirst skip n).Nodup := by
  refine h.pairwise_depthFirst skip ?_ ?_ n
  · rintro a _ ha rfl
    exact h.not_mem_ancestors a ha
  · rintro p c d a _ xs ys he hd hca hda rfl
    have hnd := h.nodup_children p
    have hmem : ∀ e ∈ c :: ys, t.parent? e = some p := by
      intro e hmem
      rw [← h.mem_children, he]
      exact List.mem_append_right xs hmem
    rw [he, List.nodup_append, List.nodup_cons] at hnd
    obtain rfl := h.child_unique (hmem c (by simp)) (hmem d (by simp [hd])) hca hda
    exact hnd.2.1.1 hd

/-- All nodes of the list but the first have a parent, so they belong to the tree. -/
theorem length_depthFirst_le (skip : NodeId → Bool) (n : NodeId) :
    (t.depthFirst skip n).length ≤ t.nodes.size + 1 := by
  have hnd := h.nodup_depthFirst skip n
  have hhas : ∀ m ∈ t.depthFirst skip n, m ≠ n → t.has m = true := by
    intro m hm hne
    have hnm := (h.mem_depthFirst.mp hm).1.resolve_left hne
    obtain ⟨p, hp, -⟩ := h.exists_parent hnm
    exact has_of_parent hp
  rw [h.depthFirst_eq] at hnd hhas ⊢
  obtain ⟨hmem, hnd⟩ := List.nodup_cons.mp hnd
  have hlen := length_le_size hnd fun m hm =>
    hhas m (List.mem_cons_of_mem n hm) (ne_of_mem_of_not_mem hm hmem)
  rw [List.length_cons]
  omega

/-! ## Traversals of sound trees -/

theorem firstChild?_eq (n : NodeId) : t.firstChild? n = (t.children n).head? :=
  (h.childList_children n).first

/-- A child that follows another one is not the first. -/
theorem firstChild?_ne {p c d : NodeId} {xs ys : List NodeId}
    (he : t.children p = xs ++ c :: d :: ys) : t.firstChild? p ≠ some d := by
  have hnd := h.nodup_children p
  rw [h.firstChild?_eq, he]
  rw [he] at hnd
  cases xs with
  | nil => simp_all
  | cons x xs =>
    intro hx
    simp_all

/-- After all that is below a child, its next sibling follows, or else what comes after all that is
below the parent. -/
theorem leave_child {p c : NodeId} {xs ys : List NodeId} (he : t.children p = xs ++ c :: ys)
    (depth : Nat) : Traversal.leave t (depth + 1) c =
      match ys with
      | [] => Traversal.leave t depth p
      | d :: _ => ⟨some d, depth + 1⟩ := by
  have hparent : t.parent? c = some p := by
    rw [← h.mem_children, he]
    simp
  rw [Traversal.leave, h.nextSibling?_eq he, hparent]
  cases ys <;> rfl

/-- A node that has no children is followed by no first child, so nothing is skipped after it. -/
theorem skipChildren_leave (depth : Nat) (n : NodeId) :
    (Traversal.leave t depth n).skipChildren t = Traversal.leave t depth n := by
  induction depth generalizing n with
  | zero => rfl
  | succ depth ih =>
    cases hp : t.parent? n with
    | none =>
      rw [Traversal.leave, hp, (h.alone n hp).2]
      rfl
    | some p =>
      obtain ⟨xs, ys, he⟩ := List.append_of_mem (h.mem_children.mpr hp)
      rw [h.leave_child he]
      cases ys with
      | nil => exact ih p
      | cons d ys =>
        have hd : t.parent? d = some p := by
          rw [← h.mem_children, he]
          simp
        simp [Traversal.skipChildren, hd, h.firstChild?_ne he]

/-- From a child on, the traversal gives what the recursion lists for it and its later siblings, and
then what it gives when it has left their parent. -/
theorem gives_children {skip : NodeId → Bool} {p : NodeId} {depth : Nat} {rest : List NodeId}
    (hchild : ∀ c ∈ t.children p, ∀ {rest}, (Traversal.leave t (depth + 1) c).Gives t skip rest →
      Traversal.Gives t skip ⟨some c, depth + 1⟩ (t.depthFirst skip c ++ rest))
    (hrest : (Traversal.leave t depth p).Gives t skip rest) (xs ys : List NodeId) (c : NodeId)
    (he : t.children p = xs ++ c :: ys) : Traversal.Gives t skip ⟨some c, depth + 1⟩
      ((c :: ys).flatMap (t.depthFirst skip) ++ rest) := by
  induction ys generalizing xs c with
  | nil =>
    rw [List.flatMap_singleton]
    apply hchild c (by simp [he])
    rwa [h.leave_child he]
  | cons d ys ih =>
    rw [List.flatMap_cons, List.append_assoc]
    apply hchild c (by simp [he])
    rw [h.leave_child he]
    exact ih (xs ++ [c]) d (by simp [he])

/-- From a node on, the traversal gives what the recursion lists for it, and then what it gives when
it has left the node. -/
theorem gives_depthFirst {skip : NodeId → Bool} {n : NodeId} {depth : Nat} {rest : List NodeId}
    (hrest : (Traversal.leave t depth n).Gives t skip rest) :
    Traversal.Gives t skip ⟨some n, depth⟩ (t.depthFirst skip n ++ rest) := by
  induction n using h.induction_down generalizing depth rest with
  | ih n ih =>
    rw [h.depthFirst_eq, List.cons_append]
    cases hchildren : t.children n with
    | nil =>
      have hnext : Traversal.next? t ⟨some n, depth⟩ = some (n, .leave t depth n) := by
        simp [Traversal.next?, h.firstChild?_eq, hchildren]
      refine .step hnext ?_
      rw [h.skipChildren_leave, ite_self]
      simpa using hrest
    | cons c cs =>
      have hfirst : t.firstChild? n = some c := by rw [h.firstChild?_eq, hchildren]; rfl
      have hnext : Traversal.next? t ⟨some n, depth⟩ = some (n, ⟨some c, depth + 1⟩) := by
        simp [Traversal.next?, hfirst]
      refine .step hnext ?_
      by_cases hskip : skip n = true
      · have hc : t.parent? c = some n := h.mem_children.mp (by simp [hchildren])
        simpa [hskip, Traversal.skipChildren, hc, hfirst] using hrest
      · rw [if_neg hskip, if_neg hskip]
        exact h.gives_children (fun c hc => ih c hc) hrest [] cs c hchildren

theorem gives_start (skip : NodeId → Bool) (n : NodeId) :
    (Traversal.start n).Gives t skip (t.depthFirst skip n) := by
  have hend : (Traversal.leave t 0 n).Gives t skip [] := .done rfl
  have hgives := h.gives_depthFirst hend
  rwa [List.append_nil] at hgives

theorem pruned_eq_depthFirst (skip : NodeId → Bool) (n : NodeId) :
    t.pruned skip n = t.depthFirst skip n :=
  (h.gives_start skip n).nodes_eq (h.length_depthFirst_le skip n)

end Sound

end StyleTree.Tree
