import StyleTree.Proofs.Document.Tree

/-!
# Comparing nodes of one tree and of several

`Tree.compare` puts the nodes of one tree in the order in which the list of its root holds them, and
nodes of different trees in the order in which they were made. Each of the two is an order, but the
nodes of one tree need not stand in the order in which they were made, so three nodes of two trees
may go round in a circle. That is the only way in which the comparison fails to be an order of all
nodes.
-/

namespace StyleTree

namespace Tree

/-- The root of the tree that the node is in. A foreign node is in a tree of its own. -/
def top (t : Tree) (n : NodeId) : NodeId :=
  (n :: t.ancestors n).getLast (List.cons_ne_nil n _)

/-- The nodes `a` and `b` stand in one tree, in this order, but `b` was made first, and the node `c`
of another tree was made after `b` and before `a`. -/
structure Interrupts (t : Tree) (c a b : NodeId) : Prop where
  same : t.top a = t.top b
  other : t.top c ≠ t.top a
  before : t.compare a b = .lt
  after_second : b < c
  before_first : c < a

/-! ## Positions in a sorted list -/

/-- In a list that the comparison sorts, nodes compare as their positions do. -/
theorem compare_eq_of_pairwise {t : Tree} {l : List NodeId}
    (hl : l.Pairwise fun a b => t.compare a b = .lt ∧ t.compare b a = .gt) {a b : NodeId}
    (ha : a ∈ l) (hb : b ∈ l) : t.compare a b = Ord.compare (l.idxOf a) (l.idxOf b) := by
  induction hl with
  | nil => cases ha
  | @cons x l hx _ ih =>
    by_cases hxa : x = a <;> by_cases hxb : x = b
    · subst a b
      rw [compare, if_pos rfl, Nat.compare_eq_eq.mpr rfl]
    · subst a
      have hmem := (List.mem_cons.mp hb).resolve_left (Ne.symm hxb)
      rw [(hx b hmem).1, List.idxOf_cons_self, List.idxOf_cons_ne l hxb]
      exact (Nat.compare_eq_lt.mpr (Nat.succ_pos _)).symm
    · subst b
      have hmem := (List.mem_cons.mp ha).resolve_left (Ne.symm hxa)
      rw [(hx a hmem).2, List.idxOf_cons_self, List.idxOf_cons_ne l hxa]
      exact (Nat.compare_eq_gt.mpr (Nat.succ_pos _)).symm
    · have hmem := (List.mem_cons.mp ha).resolve_left (Ne.symm hxa)
      have hmem' := (List.mem_cons.mp hb).resolve_left (Ne.symm hxb)
      rw [ih hmem hmem', List.idxOf_cons_ne l hxa, List.idxOf_cons_ne l hxb]
      simp [Nat.compare_eq_ite_lt]

namespace Sound

variable {t : Tree} (h : t.Sound) {a b c n r : NodeId}

include h

/-! ## The tree of a node -/

theorem parent?_top (n : NodeId) : t.parent? (t.top n) = none := by
  induction h.acyclic n with
  | intro n _ ih =>
    unfold top at ih ⊢
    cases hp : t.parent? n with
    | none => simpa [h.ancestors_of_root hp] using hp
    | some p => simpa [h.ancestors_of_child hp] using ih p hp

theorem mem_preorder_top (n : NodeId) : n ∈ t.preorder (t.top n) :=
  h.mem_preorder.mpr <| (List.mem_cons.mp (List.getLast_mem _)).imp_left Eq.symm

/-- What is not there is above nothing. -/
theorem preorder_of_not_has (hn : t.has n = false) : t.preorder n = [n] := by
  have hnone : t.children n = [] := by
    rw [List.eq_nil_iff_forall_not_mem]
    intro c hc
    rw [h.has_parent (h.mem_children.mp hc)] at hn
    cases hn
  rw [h.preorder_eq, hnone]
  rfl

/-- The list of the root is sorted, and a foreign node is the only one in its list. -/
theorem pairwise_top (n : NodeId) : (t.preorder (t.top n)).Pairwise
    fun a b => t.compare a b = .lt ∧ t.compare b a = .gt := by
  cases hhas : t.has (t.top n) with
  | true => exact h.pairwise_compare (h.parent?_top n) hhas
  | false =>
    rw [h.preorder_of_not_has hhas]
    exact List.pairwise_singleton _ _

/-! ## The two orders -/

theorem compare_of_same (hab : t.top a = t.top b) :
    t.compare a b = Ord.compare ((t.preorder (t.top a)).idxOf a) ((t.preorder (t.top a)).idxOf b) :=
  compare_eq_of_pairwise (h.pairwise_top a) (h.mem_preorder_top a) (hab ▸ h.mem_preorder_top b)

omit h in
theorem compare_of_other (hab : t.top a ≠ t.top b) : t.compare a b = Ord.compare a b := by
  have hpath : ∀ n, t.has n = true → ∃ xs, (t.inclusiveAncestors n).reverse = t.top n :: xs := by
    intro n hn
    refine ⟨(n :: t.ancestors n).dropLast.reverse, ?_⟩
    rw [inclusiveAncestors, if_pos hn, ← List.dropLast_append_getLast (List.cons_ne_nil n _),
      List.reverse_append]
    simp [top]
  have hforeign : ∀ n, ¬t.has n = true → t.inclusiveAncestors n = [] := by
    intro n hn
    rw [inclusiveAncestors, if_neg hn]
  have hne : a ≠ b := by
    rintro rfl
    exact hab rfl
  rw [compare, if_neg hne]
  by_cases ha : t.has a = true <;> by_cases hb : t.has b = true
  · obtain ⟨xs, hxs⟩ := hpath a ha
    obtain ⟨ys, hys⟩ := hpath b hb
    simp only [hxs, hys, if_neg hab]
  · simp [hforeign b hb]
  · simp [hforeign a ha]
  · simp [hforeign a ha]

/-- In one tree and across trees alike, the comparison is that of two numbers, and these are equal
for one node only. -/
theorem exists_compare_eq (a b : NodeId) : ∃ i j : Nat, t.compare a b = Ord.compare i j ∧
    t.compare b a = Ord.compare j i ∧ (i = j ↔ a = b) := by
  by_cases hab : t.top a = t.top b
  · refine ⟨_, _, h.compare_of_same hab, ?_, ?_⟩
    · rw [hab]
      exact h.compare_of_same hab.symm
    · exact List.idxOf_inj (h.mem_preorder_top a)
  · exact ⟨a, b, compare_of_other hab, compare_of_other (Ne.symm hab), Iff.rfl⟩

theorem compare_eq_iff : t.compare a b = .eq ↔ a = b := by
  obtain ⟨i, j, hij, -, hinj⟩ := h.exists_compare_eq a b
  rw [hij, Nat.compare_eq_eq, hinj]

theorem compare_swap : t.compare b a = (t.compare a b).swap := by
  obtain ⟨i, j, hij, hji, -⟩ := h.exists_compare_eq a b
  rw [hij, hji, Nat.compare_swap]

theorem compare_trans_of_same (hab : t.top a = t.top b) (hbc : t.top b = t.top c)
    (h₁ : t.compare a b = .lt) (h₂ : t.compare b c = .lt) : t.compare a c = .lt := by
  rw [h.compare_of_same hab, Nat.compare_eq_lt] at h₁
  rw [h.compare_of_same hbc, ← hab, Nat.compare_eq_lt] at h₂
  rw [h.compare_of_same (hab.trans hbc), Nat.compare_eq_lt]
  exact h₁.trans h₂

/-! ## Circles -/

/-- What comes before a node that comes before a third one comes before that, unless one of the
three was made between the two others, which stand the other way round in a tree without it. -/
theorem compare_trans_iff (h₁ : t.compare a b = .lt) (h₂ : t.compare b c = .lt) :
    t.compare a c = .lt ↔
      ¬t.Interrupts c a b ∧ ¬t.Interrupts a b c ∧ ¬t.Interrupts b c a := by
  have hlt : ∀ {x y}, t.top x ≠ t.top y → (t.compare x y = .lt ↔ x < y) := by
    intro x y hxy
    rw [compare_of_other hxy, Nat.compare_eq_lt]
  have hne : a ≠ c := by
    rintro rfl
    rw [h.compare_swap, h₁] at h₂
    cases h₂
  by_cases hab : t.top a = t.top b <;> by_cases hbc : t.top b = t.top c
  case pos =>
    refine iff_of_true (h.compare_trans_of_same hab hbc h₁ h₂) ⟨?_, ?_, ?_⟩
    · exact fun i => i.other (hab.trans hbc).symm
    · exact fun i => i.other hab
    · exact fun i => i.other hbc
  case neg =>
    -- Only `c` is in another tree.
    have hac : t.top a ≠ t.top c := hab ▸ hbc
    rw [hlt hac]
    constructor
    · intro hlt
      refine ⟨fun i => ?_, fun i => hbc i.same, fun i => hac i.same.symm⟩
      exact Nat.lt_asymm hlt i.before_first
    · rintro ⟨hnot, -, -⟩
      refine Nat.lt_of_le_of_ne (Nat.le_of_not_lt fun hca => hnot ?_) hne
      exact ⟨hab, hac.symm, h₁, (hlt hbc).mp h₂, hca⟩
  case pos =>
    -- Only `a` is in another tree.
    have hac : t.top a ≠ t.top c := hbc ▸ hab
    rw [hlt hac]
    constructor
    · intro hlt
      refine ⟨fun i => hab i.same, fun i => ?_, fun i => hac i.same.symm⟩
      exact Nat.lt_asymm hlt i.after_second
    · rintro ⟨-, hnot, -⟩
      refine Nat.lt_of_le_of_ne (Nat.le_of_not_lt fun hca => hnot ?_) hne
      exact ⟨hbc, hab, h₂, hca, (hlt hab).mp h₁⟩
  case neg =>
    have hlab := (hlt hab).mp h₁
    have hlbc := (hlt hbc).mp h₂
    by_cases hac : t.top a = t.top c
    · -- Only `b` is in another tree.
      constructor
      · intro hlt
        refine ⟨fun i => hab i.same, fun i => hbc i.same, fun i => ?_⟩
        have := h.compare_swap (a := a) (b := c)
        rw [hlt, i.before] at this
        cases this
      · rintro ⟨-, -, hnot⟩
        by_contra hge
        refine hnot ⟨hac.symm, hbc, ?_, hlab, hlbc⟩
        rw [h.compare_swap]
        cases hcmp : t.compare a c with
        | lt => exact absurd hcmp hge
        | eq => exact absurd (h.compare_eq_iff.mp hcmp) hne
        | gt => rfl
    · refine iff_of_true ((hlt hac).mpr (hlab.trans hlbc)) ⟨?_, ?_, ?_⟩
      · exact fun i => hab i.same
      · exact fun i => hbc i.same
      · exact fun i => hac i.same.symm

end Sound

end Tree

namespace Document

/-- After any operations, nodes of one tree compare as their positions in the list of its root, and
nodes of different trees, detached or foreign ones among them, as they were made. The comparison
tells all nodes apart and changes sign with the order of the two. A node that comes before one that
comes before a third comes before that as well, except if one of the three was made between the two
others, which stand the other way round in a tree without it. -/
theorem compare_run (doctype : Option String) (o : Options) (os : List Operation) :
    let t := ((create doctype o).run os).page.tree
    (∀ a b, t.top a = t.top b → t.compare a b =
      Ord.compare ((t.preorder (t.top a)).idxOf a) ((t.preorder (t.top a)).idxOf b)) ∧
      (∀ a b, t.top a ≠ t.top b → t.compare a b = Ord.compare a b) ∧
      (∀ a b, t.compare a b = .eq ↔ a = b) ∧
      (∀ a b, t.compare b a = (t.compare a b).swap) ∧
      ∀ a b c, t.compare a b = .lt → t.compare b c = .lt →
        (t.compare a c = .lt ↔
          ¬t.Interrupts c a b ∧ ¬t.Interrupts a b c ∧ ¬t.Interrupts b c a) := by
  intro t
  have hsound : t.Sound := (run_valid doctype o os).toSound
  refine ⟨fun _ _ => hsound.compare_of_same, fun _ _ => Tree.Sound.compare_of_other, ?_, ?_, ?_⟩
  · exact fun _ _ => hsound.compare_eq_iff
  · exact fun _ _ => hsound.compare_swap
  · exact fun _ _ _ => hsound.compare_trans_iff

/-- Below `b`, which comes before its child `a`, and beside the detached `c`, made after both, the
three are in order. -/
theorem compare_run_detached :
    let t := ((create none .default).run [.createElement "a", .createElement "b",
      .createElement "c", .insertBefore 2 1 none]).page.tree
    t.top 2 = t.top 1 ∧ t.compare 2 1 = Ord.compare 0 1 ∧
      t.top 1 ≠ t.top 3 ∧ t.compare 1 3 = Ord.compare 1 3 ∧
      t.compare 2 3 = .lt ∧ ¬t.Interrupts 3 2 1 ∧ ¬t.Interrupts 2 1 3 ∧ ¬t.Interrupts 1 3 2 := by
  intro t
  obtain ⟨hsame, hother, -, -, htrans⟩ := compare_run none .default [.createElement "a",
    .createElement "b", .createElement "c", .insertBefore 2 1 none]
  have htop : t.top 2 = t.top 1 := by decide
  have htop' : t.top 1 ≠ t.top 3 := by decide
  have h₁ : t.compare 2 1 = Ord.compare 0 1 := hsame 2 1 htop
  have h₂ : t.compare 1 3 = Ord.compare 1 3 := hother 1 3 htop'
  have h₃ : t.compare 2 3 = .lt := by decide
  exact ⟨htop, h₁, htop', h₂, h₃, (htrans 2 1 3 h₁ h₂).mp h₃⟩

/-- The nodes of one tree need not stand in the order in which they were made: `c` comes before its
child `a`, `a` before the detached `b`, and `b` before `c`. -/
theorem compare_circle :
    let t := ((create none .default).run [.createElement "a", .createElement "b",
      .createElement "c", .insertBefore 3 1 none]).page.tree
    ¬∀ a b c, t.compare a b = .lt → t.compare b c = .lt → t.compare a c = .lt := by
  intro t htrans
  have h := htrans 3 1 2 (by decide) (by decide)
  have hcircle : t.compare 3 2 = .gt := by decide
  rw [hcircle] at h
  cases h

end Document

end StyleTree
