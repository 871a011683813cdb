import StyleTree.Proofs.Style.Elements
import StyleTree.Selector.Position

/-!
# Elements that combinators relate

`Combinator.Leads` says which elements a combinator relates, by parents and by lists of children
alone. The elements that are tried when a selector is read from right to left are exactly those to
which the combinator leads, and the elements that are found from left to right are exactly those
from which it leads back.
-/

namespace StyleTree

/-! ## Siblings -/

namespace Tree

/-- Among the children of one node, `m` comes before `n`, with the nodes `between` in between. -/
def Precedes (t : Tree) (m : NodeId) (between : List NodeId) (n : NodeId) : Prop :=
  ∃ a xs ys, t.children a = xs ++ m :: (between ++ n :: ys)

namespace Sound

variable {t : Tree} (h : t.Sound) {m n : NodeId} {between : List NodeId}

include h

theorem precedes_iff_preceding :
    t.Precedes m between n ↔ ∃ l, t.preceding n = between.reverse ++ m :: l := by
  constructor
  · rintro ⟨a, xs, ys, he⟩
    have he' : t.children a = (xs ++ m :: between) ++ n :: ys := by simp [he]
    exact ⟨xs.reverse, by simp [(h.siblings he').1]⟩
  · rintro ⟨l, hl⟩
    cases ha : t.parent? n with
    | none =>
      rw [(h.siblings_of_root ha).1] at hl
      simp at hl
    | some a =>
      obtain ⟨xs, ys, he⟩ := List.append_of_mem (h.mem_children.mpr ha)
      rw [(h.siblings he).1, List.reverse_eq_iff] at hl
      exact ⟨a, l.reverse, ys, by simp [he, hl]⟩

theorem precedes_iff_following :
    t.Precedes m between n ↔ ∃ l, t.following m = between ++ n :: l := by
  constructor
  · rintro ⟨a, xs, ys, he⟩
    exact ⟨ys, (h.siblings he).2⟩
  · rintro ⟨l, hl⟩
    cases ha : t.parent? m with
    | none =>
      rw [(h.siblings_of_root ha).2] at hl
      simp at hl
    | some a =>
      obtain ⟨xs, ys, he⟩ := List.append_of_mem (h.mem_children.mpr ha)
      rw [(h.siblings he).2] at hl
      exact ⟨a, xs, l, by rw [he, hl]⟩

/-- What comes before a node has the same parent. -/
theorem parent?_of_mem_preceding (hm : m ∈ t.preceding n) : t.parent? m = t.parent? n := by
  obtain ⟨between, l, hl⟩ := List.append_of_mem hm
  obtain ⟨a, xs, ys, he⟩ := h.precedes_iff_preceding.mpr ⟨l, by rwa [List.reverse_reverse]⟩
  have hmem : ∀ c ∈ t.children a, t.parent? c = some a := fun c hc => h.mem_children.mp hc
  rw [hmem m (by simp [he]), hmem n (by simp [he])]

/-- What comes before the node that comes next before another one. -/
theorem preceding_of_append {l : List NodeId} (hl : t.preceding n = between ++ m :: l) :
    t.preceding m = l := by
  obtain ⟨a, xs, ys, he⟩ := h.precedes_iff_preceding.mpr ⟨l, by rwa [List.reverse_reverse]⟩
  have he' : t.children a = (xs ++ m :: between.reverse) ++ n :: ys := by simp [he]
  have hn := (h.siblings he').1
  simp only [hl, List.reverse_append, List.reverse_cons, List.reverse_reverse, List.append_assoc,
    List.singleton_append, List.append_cancel_left_eq, List.cons.injEq, true_and] at hn
  rw [(h.siblings he).1, hn]

theorem transGen_parent_iff :
    Relation.TransGen (fun c a => t.parent? c = some a) n m ↔ m ∈ t.ancestors n := by
  constructor
  · intro hup
    induction hup with
    | single hm => rw [h.mem_ancestors]; exact ⟨n, hm, .inl rfl⟩
    | tail _ hm ih => rw [h.mem_ancestors]; exact ⟨_, hm, .inr ih⟩
  · intro hm
    induction h.acyclic n with
    | intro n _ ih =>
      obtain ⟨a, ha, rfl | hm⟩ := h.exists_parent hm
      · exact .single ha
      · exact .head ha (ih a ha hm)

end Sound

end Tree

namespace Page

variable {p : Page} {m n : NodeId}

/-! ## Ways from element to element -/

/-- If a list goes on with the list of its first member, then so it does from every member. -/
theorem cons_suffix_of_mem {f : NodeId → List NodeId} (hf : ∀ n m l, f n = m :: l → f m = l)
    (hm : m ∈ f n) : m :: f m <:+ f n := by
  induction hl : f n generalizing n with
  | nil => simp [hl] at hm
  | cons a l ih =>
    have ha := hf n a l hl
    rw [hl, List.mem_cons] at hm
    rcases hm with rfl | hm
    · exact ha ▸ List.suffix_rfl
    · exact (ih (by rwa [ha]) ha).trans (List.suffix_cons a l)

/-! ## Elements above an element -/

/-- Above an element, all that is no element is the document. -/
theorem mem_ancestorElements (h : p.tree.Valid) :
    m ∈ p.ancestorElements n ↔ m ∈ p.tree.ancestors n ∧ p.isElement m = true := by
  induction h.acyclic n with
  | intro n _ ih =>
    rw [ancestorElements_eq h.toSound, parentElement?]
    cases ha : p.tree.parent? n with
    | none => simp [h.ancestors_of_root ha]
    | some a =>
      rw [h.ancestors_of_child ha, Option.filter_some]
      cases hel : p.isElement a with
      | true =>
        simp only [if_true, Option.elim_some, List.mem_cons, ih a ha]
        constructor
        · rintro (rfl | hm)
          · exact ⟨.inl rfl, hel⟩
          · exact ⟨.inr hm.1, hm.2⟩
        · rintro ⟨rfl | hm, hel⟩
          · exact .inl rfl
          · exact .inr ⟨hm, hel⟩
      | false =>
        obtain rfl : a = Tree.root := (parent_of_isElement h ha).resolve_right (by simp [hel])
        rw [h.ancestors_of_root h.parent_root]
        simp only [Bool.false_eq_true, if_false, Option.elim_none, List.not_mem_nil,
          List.mem_singleton, false_iff]
        rintro ⟨rfl, hm⟩
        cases hel.symm.trans hm

theorem parentElement?_eq_head? (h : p.tree.Sound) :
    p.parentElement? n = (p.ancestorElements n).head? := by
  rw [ancestorElements_eq h]
  cases p.parentElement? n <;> rfl

/-- The elements above the nearest one. -/
theorem ancestorElements_of_cons (h : p.tree.Sound) {l : List NodeId}
    (hl : p.ancestorElements n = m :: l) : p.ancestorElements m = l := by
  rw [ancestorElements_eq h] at hl
  cases ha : p.parentElement? n with
  | none => simp [ha] at hl
  | some a =>
    rw [ha] at hl
    obtain ⟨rfl, rfl⟩ := List.cons.inj hl
    rfl

/-- From an element on, the way up is the way up of the element. -/
theorem cons_ancestorElements_suffix (h : p.tree.Sound) (hm : m ∈ p.ancestorElements n) :
    m :: p.ancestorElements m <:+ p.ancestorElements n :=
  cons_suffix_of_mem (fun _ _ _ => ancestorElements_of_cons h) hm

theorem ancestorElements_congr (h : p.tree.Sound)
    (hparent : p.tree.parent? m = p.tree.parent? n) :
    p.ancestorElements m = p.ancestorElements n := by
  rw [ancestorElements_eq h, ancestorElements_eq h, parentElement?, parentElement?, hparent]

/-! ## Elements beside an element -/

/-- The elements before the one that is nearest before an element. -/
theorem precedingElements_of_cons (h : p.tree.Sound) {l : List NodeId}
    (hl : p.precedingElements n = m :: l) : p.precedingElements m = l := by
  obtain ⟨xs, ys, he, -, -, rfl⟩ := List.filter_eq_cons_iff.mp hl
  rw [precedingElements, h.preceding_of_append he]

theorem precedingElements_subset (h : p.tree.Sound) (hm : m ∈ p.precedingElements n) :
    p.precedingElements m ⊆ p.precedingElements n := by
  have hsuffix := cons_suffix_of_mem (fun _ _ _ => precedingElements_of_cons h) hm
  exact fun k hk => hsuffix.subset (List.mem_cons_of_mem m hk)

theorem ancestorElements_of_mem_precedingElements (h : p.tree.Sound)
    (hm : m ∈ p.precedingElements n) : p.ancestorElements m = p.ancestorElements n :=
  ancestorElements_congr h (h.parent?_of_mem_preceding (List.mem_of_mem_filter hm))

theorem mem_precedingElements (h : p.tree.Sound) : m ∈ p.precedingElements n ↔
    p.isElement m = true ∧ ∃ between, p.tree.Precedes m between n := by
  rw [precedingElements, List.mem_filter, and_comm, List.mem_iff_append]
  simp only [h.precedes_iff_preceding]
  refine and_congr_right fun _ => ⟨?_, ?_⟩
  · rintro ⟨between, l, hl⟩
    exact ⟨between.reverse, l, by rwa [List.reverse_reverse]⟩
  · rintro ⟨between, l, hl⟩
    exact ⟨between.reverse, l, hl⟩

theorem mem_followingElements (h : p.tree.Sound) : n ∈ p.followingElements m ↔
    p.isElement n = true ∧ ∃ between, p.tree.Precedes m between n := by
  rw [followingElements, List.mem_filter, and_comm, List.mem_iff_append]
  simp only [h.precedes_iff_following]

theorem head?_precedingElements (h : p.tree.Sound) :
    (p.precedingElements n).head? = some m ↔ p.isElement m = true ∧
      ∃ between, p.tree.Precedes m between n ∧ ∀ k ∈ between, p.isElement k = false := by
  rw [precedingElements, List.head?_filter, List.find?_eq_some_iff_append]
  simp only [h.precedes_iff_preceding, Bool.not_eq_true']
  refine and_congr_right fun _ => ⟨?_, ?_⟩
  · rintro ⟨between, l, hl, hbetween⟩
    exact ⟨between.reverse, ⟨l, by rwa [List.reverse_reverse]⟩, by simpa using hbetween⟩
  · rintro ⟨between, ⟨l, hl⟩, hbetween⟩
    exact ⟨between.reverse, l, hl, by simpa using hbetween⟩

theorem head?_followingElements (h : p.tree.Sound) :
    (p.followingElements m).head? = some n ↔ p.isElement n = true ∧
      ∃ between, p.tree.Precedes m between n ∧ ∀ k ∈ between, p.isElement k = false := by
  rw [followingElements, List.head?_filter, List.find?_eq_some_iff_append]
  simp only [h.precedes_iff_following, Bool.not_eq_true']
  refine and_congr_right fun _ => ⟨?_, ?_⟩
  · rintro ⟨between, l, hl, hbetween⟩
    exact ⟨between, ⟨l, hl⟩, hbetween⟩
  · rintro ⟨between, ⟨l, hl⟩, hbetween⟩
    exact ⟨between, l, hl, hbetween⟩

/-! ## Elements below an element -/

theorem mem_childElements (h : p.tree.Sound) :
    m ∈ p.childElements n ↔ p.isElement m = true ∧ p.tree.parent? m = some n := by
  rw [childElements, List.mem_filter, and_comm, h.mem_children]

theorem mem_descendantElements (h : p.tree.Sound) :
    m ∈ p.descendantElements n ↔ p.isElement m = true ∧ n ∈ p.tree.ancestors m := by
  rw [descendantElements, List.mem_filter, and_comm, h.mem_descendants]

end Page

/-! ## Combinators -/

namespace Combinator

/-- The combinator, read from right to left, leads from the node `n` to the element `m`: to what is
above it, to its parent, to what is before it among its siblings, or to the nearest element before
it. Nodes between siblings that are no elements do not count. -/
def Leads (p : Page) (n m : NodeId) : Combinator → Prop
  | .descendant =>
    p.isElement m = true ∧ Relation.TransGen (fun c a => p.tree.parent? c = some a) n m
  | .child => p.isElement m = true ∧ p.tree.parent? n = some m
  | .laterSibling => p.isElement m = true ∧ ∃ between, p.tree.Precedes m between n
  | .nextSibling =>
    p.isElement m = true ∧
      ∃ between, p.tree.Precedes m between n ∧ ∀ k ∈ between, p.isElement k = false

variable {p : Page} {m n : NodeId}

theorem Leads.isElement {c : Combinator} (hc : c.Leads p n m) : p.isElement m = true := by
  cases c <;> exact hc.1

/-- The elements that are tried from right to left. -/
theorem mem_candidates (h : p.tree.Valid) (c : Combinator) :
    m ∈ c.candidates p n ↔ c.Leads p n m := by
  cases c with
  | descendant =>
    rw [candidates, Page.mem_ancestorElements h, Leads, h.transGen_parent_iff, and_comm]
  | child =>
    rw [candidates, Option.mem_toList, Page.parentElement?,
      Option.filter_eq_some_iff, Leads, and_comm]
  | laterSibling => exact Page.mem_precedingElements h.toSound
  | nextSibling =>
    rw [candidates, Option.mem_toList, Page.head?_precedingElements h.toSound]
    rfl

/-- The elements that are found from left to right. -/
theorem mem_related (h : p.tree.Valid) (hn : p.isElement n = true) (c : Combinator) :
    m ∈ p.related n c ↔ p.isElement m = true ∧ c.Leads p m n := by
  cases c with
  | descendant =>
    rw [Page.related, Page.mem_descendantElements h.toSound, Leads, h.transGen_parent_iff]
    simp only [hn, true_and]
  | child =>
    rw [Page.related, Page.mem_childElements h.toSound, Leads]
    simp only [hn, true_and]
  | laterSibling =>
    rw [Page.related, Page.mem_followingElements h.toSound, Leads]
    simp only [hn, true_and]
  | nextSibling =>
    rw [Page.related, Option.mem_toList, Page.head?_followingElements h.toSound,
      Leads]
    simp only [hn, true_and]

end Combinator

end StyleTree
