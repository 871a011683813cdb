import StyleTree.Proofs.Document.Tree

/-!
# Traversals of documents

What the traversal of a node gives, said without it. It comes to its end, whatever is skipped on the
way, and the nodes that it gives are those that the node is above, itself among them, less those
below a skipped one. They come in tree order: a node before all that is below it, and that before
all that is below a later sibling.
-/

namespace StyleTree

namespace Tree

/-- In tree order `a` comes before `b`: it is above `b`, or they are in the branches of two
siblings, of which that of `a` is the earlier. -/
def ComesBefore (t : Tree) (a b : NodeId) : Prop :=
  a ∈ t.ancestors b ∨ ∃ x y, y ∈ t.following x ∧ t.isInclusiveAncestor x a = true ∧
    t.isInclusiveAncestor y b = true

namespace Sound

variable {t : Tree} (h : t.Sound)

include h

theorem pairwise_comesBefore (skip : NodeId → Bool) (n : NodeId) :
    (t.pruned skip n).Pairwise t.ComesBefore := by
  apply h.pairwise_pruned skip
  · exact fun ha => .inl ha
  · intro p c d a b xs ys he hd ha hb
    have hchild : ∀ e ∈ c :: ys, t.has e = true := by
      intro e hmem
      have hparent : t.parent? e = some p := by
        rw [← h.mem_children, he]
        exact List.mem_append_right xs hmem
      exact has_of_parent hparent
    right
    refine ⟨c, d, ?_, ?_, ?_⟩
    · rwa [(h.siblings he).2]
    · rwa [h.isInclusiveAncestor_iff_mem (hchild c (by simp))]
    · rwa [h.isInclusiveAncestor_iff_mem (hchild d (by simp [hd]))]

theorem mem_pruned_iff {skip : NodeId → Bool} {n m : NodeId} (hn : t.has n = true) :
    m ∈ t.pruned skip n ↔ t.isInclusiveAncestor n m = true ∧
      ∀ a ∈ t.ancestors m, t.isInclusiveAncestor n a = true → skip a = false := by
  simp only [h.mem_pruned, h.isInclusiveAncestor_iff_mem hn, h.mem_preorder]

end Sound

end Tree

namespace Document

/-- After any operations, the traversal of a node of the document comes to its end and gives one
list of nodes. These are the node and all that is below it, each once and in tree order, but for
those that are below another one of them after which `skip` says to skip the children. -/
theorem traversal_run (doctype : Option String) (o : Options) (os : List Operation) :
    let t := ((create doctype o).run os).page.tree
    ∀ n, t.has n = true →
      (∀ skip l, (Tree.Traversal.start n).Gives t skip l ↔ l = t.pruned skip n) ∧
        (∀ skip, (t.pruned skip n).Nodup ∧ (t.pruned skip n).Pairwise t.ComesBefore ∧
          ∀ m, m ∈ t.pruned skip n ↔ t.isInclusiveAncestor n m = true ∧
            ∀ a ∈ t.ancestors m, t.isInclusiveAncestor n a = true → skip a = false) ∧
        ∀ m, m ∈ t.preorder n ↔ t.isInclusiveAncestor n m = true := by
  intro t n hn
  have hsound : t.Sound := (run_valid doctype o os).toSound
  refine ⟨?_, ?_, ?_⟩
  · intro skip l
    have hgives := hsound.gives_start skip n
    rw [hsound.pruned_eq_depthFirst]
    constructor
    · exact fun hl => hl.unique hgives
    · rintro rfl
      exact hgives
  · exact fun skip => ⟨hsound.nodup_pruned skip n, hsound.pairwise_comesBefore skip n,
      fun m => hsound.mem_pruned_iff hn⟩
  · exact fun m => (hsound.isInclusiveAncestor_iff_mem hn).symm

/-- The children of all items of a list are skipped, of which the first has one and the last has
none. The paragraph after the list is not part of it. -/
theorem traversal_run_items :
    let t := ((create none .default).run [.createElement "div", .createElement "ul",
      .createElement "li", .createElement "b", .createElement "li", .createElement "p",
      .insertBefore Tree.root 1 none, .insertBefore 1 2 none, .insertBefore 2 3 none,
      .insertBefore 3 4 none, .insertBefore 2 5 none, .insertBefore 1 6 none]).page.tree
    let skip := fun n : NodeId => n == 3 || n == 5
    t.has 2 = true ∧ t.following 2 = [6] ∧ t.preorder 2 = [2, 3, 4, 5] ∧
      (Tree.Traversal.start 2).Gives t skip [2, 3, 5] ∧ t.ComesBefore 3 5 ∧
      4 ∉ t.pruned skip 2 ∧ t.isInclusiveAncestor 2 6 = false := by
  intro t skip
  have hn : t.has 2 = true := by decide
  have hpruned : t.pruned skip 2 = [2, 3, 5] := by decide
  have hpreorder : t.preorder 2 = [2, 3, 4, 5] := by decide
  obtain ⟨hgives, hlist, hall⟩ := traversal_run none .default [.createElement "div",
    .createElement "ul", .createElement "li", .createElement "b", .createElement "li",
    .createElement "p", .insertBefore Tree.root 1 none, .insertBefore 1 2 none,
    .insertBefore 2 3 none, .insertBefore 3 4 none, .insertBefore 2 5 none,
    .insertBefore 1 6 none] 2 hn
  have hgives : (Tree.Traversal.start 2).Gives t skip [2, 3, 5] :=
    (hgives skip _).mpr hpruned.symm
  have horder : [2, 3, 5].Pairwise t.ComesBefore := hpruned ▸ (hlist skip).2.1
  have hskipped : 4 ∉ t.pruned skip 2 := by
    intro hmem
    have hbetween := (((hlist skip).2.2 4).mp hmem).2 3 (by decide) (by decide)
    cases hbetween
  have houtside : t.isInclusiveAncestor 2 6 = false := by
    have hmem := hall 6
    rw [Bool.eq_false_iff, ne_eq, ← hmem]
    exact hpreorder ▸ by decide
  simp only [List.pairwise_cons, List.mem_singleton, forall_eq] at horder
  exact ⟨hn, by decide, hpreorder, hgives, horder.2.1, hskipped, houtside⟩

end Document

end StyleTree
