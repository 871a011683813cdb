import Mathlib.Data.List.Range
import Mathlib.Data.List.Perm.Subperm
import StyleTree.Tree.Basic

/-!
# Walks

A walk that follows a link from node to node until there is none. `Walk` says what it visits
without a bound on its length. A walk that ends comes back to no node, so the bound that
`Tree.walk` is given, the number of nodes, is never too small.
-/

namespace StyleTree.Tree

/-- Following the link from `start`, until there is none, visits exactly the nodes of the list. -/
inductive Walk (t : Tree) (link : Node → Option NodeId) : Option NodeId → List NodeId → Prop where
  | done : Walk t link none []
  | step {n : NodeId} {l : List NodeId} (h : Walk t link ((t.get? n).bind link) l) :
    Walk t link (some n) (n :: l)

namespace Walk

variable {t : Tree} {link : Node → Option NodeId} {start : Option NodeId} {l l' : List NodeId}
  {n : NodeId}

theorem unique (h : t.Walk link start l) (h' : t.Walk link start l') : l = l' := by
  induction h generalizing l' with
  | done =>
    cases h'
    rfl
  | step _ ih =>
    cases h' with
    | step h' => rw [ih h']

/-- From a node that it visits on, the walk is the walk from that node. -/
theorem from_mem (h : t.Walk link start l) (hn : n ∈ l) :
    ∃ l₁ l₂, l = l₁ ++ n :: l₂ ∧ t.Walk link ((t.get? n).bind link) l₂ := by
  induction h with
  | done => simp at hn
  | step h ih =>
    rcases List.mem_cons.mp hn with rfl | hn
    · exact ⟨[], _, rfl, h⟩
    · obtain ⟨l₁, l₂, rfl, h₂⟩ := ih hn
      exact ⟨_ :: l₁, l₂, rfl, h₂⟩

/-- A walk that ends does not come back to where it started. -/
theorem not_mem (h : t.Walk link ((t.get? n).bind link) l) : n ∉ l := by
  intro hn
  obtain ⟨l₁, l₂, hl, h₂⟩ := h.from_mem hn
  have := congrArg List.length (h.unique h₂)
  rw [hl] at this
  simp at this
  omega

theorem nodup (h : t.Walk link start l) : l.Nodup := by
  induction h with
  | done => exact List.nodup_nil
  | step h ih => exact List.nodup_cons.mpr ⟨h.not_mem, ih⟩

theorem walk_eq (h : t.Walk link start l) {limit : Nat} (hl : l.length ≤ limit) :
    t.walk link limit start = l := by
  induction h generalizing limit with
  | done => cases limit <;> rfl
  | step h ih =>
    cases limit with
    | zero => simp at hl
    | succ limit =>
      rw [walk, ih]
      simpa using hl

/-- All nodes of the walk belong to the tree if links lead to nodes of the tree only. -/
theorem has_of_mem (hlink : ∀ m k, (t.get? m).bind link = some k → t.has k = true)
    (hstart : ∀ m, start = some m → t.has m = true) (h : t.Walk link start l) :
    ∀ m ∈ l, t.has m = true := by
  induction h with
  | done => simp
  | @step n l h ih =>
    intro m hm
    rcases List.mem_cons.mp hm with rfl | hm
    · exact hstart m rfl
    · exact ih (hlink n) m hm

end Walk

/-- A list of nodes of the tree without repetition is no longer than there are nodes. -/
theorem length_le_size {t : Tree} {l : List NodeId} (hnd : l.Nodup)
    (h : ∀ n ∈ l, t.has n = true) : l.length ≤ t.nodes.size := by
  have hsub : l ⊆ List.range t.nodes.size := by
    intro n hn
    simpa [has] using h n hn
  simpa using (hnd.subperm hsub).length_le

end StyleTree.Tree
