import StyleTree.Proofs.Tree.Sound

/-!
# Changes of sound trees

What a new node, other data, putting in and taking out do to the parents, the children and the data
of nodes. Each of them keeps a tree sound.
-/

namespace StyleTree.Tree

/-! ## Links of roots -/

/-- Trees with the same links have the same child lists. -/
theorem ChildList.congr {t u : Tree} {p : NodeId} {cs : List NodeId} (h : t.ChildList p cs)
    (hparent : ∀ m, u.parent? m = t.parent? m) (hfirst : u.firstChild? p = t.firstChild? p)
    (hlast : u.lastChild? p = t.lastChild? p)
    (hprev : ∀ c ∈ cs, u.prevSibling? c = t.prevSibling? c)
    (hnext : ∀ c ∈ cs, u.nextSibling? c = t.nextSibling? c) : u.ChildList p cs where
  first := hfirst.trans h.first
  last := hlast.trans h.last
  chain := h.chain.congr hprev hnext
  nodup := h.nodup
  mem c := by rw [hparent, h.mem]

/-- Trees with the same links are sound together. -/
theorem Sound.congr {t u : Tree} (h : t.Sound) (hparent : ∀ m, u.parent? m = t.parent? m)
    (hfirst : ∀ m, u.firstChild? m = t.firstChild? m)
    (hlast : ∀ m, u.lastChild? m = t.lastChild? m)
    (hprev : ∀ m, u.prevSibling? m = t.prevSibling? m)
    (hnext : ∀ m, u.nextSibling? m = t.nextSibling? m) : u.Sound where
  childList p := by
    obtain ⟨cs, hcs⟩ := h.childList p
    exact ⟨cs, hcs.congr hparent (hfirst p) (hlast p) (fun c _ => hprev c) fun c _ => hnext c⟩
  alone n hn := by
    rw [hprev, hnext]
    exact h.alone n (by rw [← hparent, hn])
  acyclic := by
    simp only [hparent]
    exact h.acyclic

/-! ## A new node -/

section Push

variable {t : Tree} {data : NodeData} {n : NodeId}

theorem get?_push : (t.push data).get? n = if n = t.fresh then some { data } else t.get? n := by
  exact Array.getElem?_push

theorem not_has_fresh : t.has t.fresh = false := by
  simp [has, fresh]

theorem get?_fresh : t.get? t.fresh = none := by
  simp [get?, fresh]

/-- The new node has no links, and no other node got any. -/
theorem bind_push {link : Node → Option NodeId} (hlink : link { data } = none) :
    ((t.push data).get? n).bind link = (t.get? n).bind link := by
  rw [get?_push]
  split
  · subst n
    rw [get?_fresh]
    exact hlink
  · rfl

@[simp] theorem parent?_push : (t.push data).parent? n = t.parent? n :=
  bind_push rfl

theorem data?_push : (t.push data).data? n = if n = t.fresh then some data else t.data? n := by
  unfold data?
  rw [get?_push]
  split <;> rfl

theorem data?_push_of_has (hn : t.has n = true) : (t.push data).data? n = t.data? n := by
  rw [data?_push, if_neg]
  rintro rfl
  simp [not_has_fresh] at hn

theorem element?_push : (t.push data).element? n =
    if n = t.fresh then data.element? else t.element? n := by
  unfold element?
  rw [data?_push]
  split <;> rfl

theorem parent?_fresh : t.parent? t.fresh = none := by
  rw [parent?, get?_fresh]
  rfl

namespace Sound

theorem push (h : t.Sound) : (t.push data).Sound :=
  h.congr (fun _ => bind_push rfl) (fun _ => bind_push rfl) (fun _ => bind_push rfl)
    (fun _ => bind_push rfl) fun _ => bind_push rfl

theorem children_push (h : t.Sound) : (t.push data).children n = t.children n := by
  refine ChildList.children_eq ((h.childList_children n).congr ?_ ?_ ?_ ?_ ?_)
  all_goals intros; exact bind_push rfl

end Sound

end Push

/-! ## Other data -/

section SetData

variable {t : Tree} {data : NodeData} {n m : NodeId}

theorem bind_setData {link : Node → Option NodeId} (hlink : ∀ x, link { x with data } = link x) :
    ((t.setData n data).get? m).bind link = (t.get? m).bind link :=
  bind_update m hlink

@[simp] theorem parent?_setData : (t.setData n data).parent? m = t.parent? m :=
  bind_setData fun _ => rfl

theorem data?_setData (hn : t.has n = true) :
    (t.setData n data).data? m = if n = m then some data else t.data? m := by
  unfold data?
  rw [setData, get?_update]
  split
  · subst m
    obtain ⟨node, hnode⟩ := (t.has_iff n).mp hn
    simp [hnode]
  · rfl

theorem element?_setData (hn : t.has n = true) :
    (t.setData n data).element? m = if n = m then data.element? else t.element? m := by
  unfold element?
  rw [data?_setData hn]
  split <;> rfl

namespace Sound

theorem setData (h : t.Sound) : (t.setData n data).Sound :=
  h.congr (fun _ => bind_setData fun _ => rfl) (fun _ => bind_setData fun _ => rfl)
    (fun _ => bind_setData fun _ => rfl) (fun _ => bind_setData fun _ => rfl)
    fun _ => bind_setData fun _ => rfl

theorem children_setData (h : t.Sound) : (t.setData n data).children m = t.children m := by
  refine ChildList.children_eq ((h.childList_children m).congr ?_ ?_ ?_ ?_ ?_)
  all_goals intros; exact bind_setData fun _ => rfl

end Sound

end SetData

/-! ## Putting a root in -/

@[simp] theorem size_link {t : Tree} {p n : NodeId} {before : Option NodeId} :
    (t.link p n before).nodes.size = t.nodes.size := by
  simp [link]

@[simp] theorem data?_link {t : Tree} {p n m : NodeId} {before : Option NodeId} :
    (t.link p n before).data? m = t.data? m := by
  simp [link]

@[simp] theorem element?_link {t : Tree} {p n m : NodeId} {before : Option NodeId} :
    (t.link p n before).element? m = t.element? m := by
  simp [element?]

/-- The root `n` can become a child of `p`, between the children `xs` and `ys`. -/
structure Insertable (t : Tree) (p n : NodeId) (xs ys : List NodeId) : Prop where
  has : t.has n = true
  has_parent : t.has p = true
  root : t.parent? n = none
  not_above : t.isInclusiveAncestor n p = false
  children : t.children p = xs ++ ys

namespace Insertable

variable {t : Tree} {p n : NodeId} {xs ys : List NodeId} (i : t.Insertable p n xs ys)

include i

theorem ne : n ≠ p := by
  rintro rfl
  have := i.not_above
  rw [Bool.eq_false_iff, ne_eq, Sound.isInclusiveAncestor_iff] at this
  exact this ⟨i.has, .inl rfl⟩

theorem not_mem_ancestors : n ∉ t.ancestors p := by
  intro hn
  have := i.not_above
  rw [Bool.eq_false_iff, ne_eq, Sound.isInclusiveAncestor_iff] at this
  exact this ⟨i.has_parent, .inr hn⟩

theorem parent?_link (m : NodeId) :
    (t.link p n ys.head?).parent? m = if n = m then some p else t.parent? m := by
  simp [link, i.has]

theorem childList (h : t.Sound) : t.ChildList p (xs ++ ys) := by
  have := h.childList_children p
  rwa [i.children] at this

/-- Nodes that are not below `n` are above no more than before, so nothing gets above itself. -/
theorem acyclic (h : t.Sound) (m : NodeId) :
    Acc (fun q c => (t.link p n ys.head?).parent? c = some q) m := by
  -- The induction goes up in the old tree; `n`, the only node with another parent, comes last.
  have hbeside : ∀ m, n ≠ m → n ∉ t.ancestors m →
      Acc (fun q c => (t.link p n ys.head?).parent? c = some q) m := by
    intro m
    induction h.acyclic m with
    | intro m _ ih =>
      intro hne hmem
      refine ⟨_, fun q hq => ?_⟩
      rw [i.parent?_link, if_neg hne] at hq
      rw [h.ancestors_of_child hq, List.mem_cons, not_or] at hmem
      exact ih q hq hmem.1 hmem.2
  have hself : Acc (fun q c => (t.link p n ys.head?).parent? c = some q) n := by
    refine ⟨_, fun q hq => ?_⟩
    rw [i.parent?_link, if_pos rfl] at hq
    cases hq
    exact hbeside p i.ne i.not_mem_ancestors
  induction h.acyclic m with
  | intro m _ ih =>
    by_cases hm : n = m
    · exact hm ▸ hself
    · refine ⟨_, fun q hq => ih q ?_⟩
      rwa [i.parent?_link, if_neg hm] at hq

theorem alone (h : t.Sound) {m : NodeId} (hm : (t.link p n ys.head?).parent? m = none) :
    (t.link p n ys.head?).prevSibling? m = none ∧ (t.link p n ys.head?).nextSibling? m = none := by
  have hcl := i.childList h
  rw [i.parent?_link] at hm
  split at hm
  · cases hm
  next hne =>
    have hx : xs.getLast? ≠ some m := by
      intro he
      have := (hcl.mem m).mp (List.mem_append_left ys (List.mem_of_getLast? he))
      simp [hm] at this
    have hy : ys.head? ≠ some m := by
      intro he
      have := (hcl.mem m).mp (List.mem_append_right xs (List.mem_of_head? he))
      simp [hm] at this
    unfold link
    rw [hcl.prev_eq]
    simp [i.has, hcl.has_getLast, hcl.has_head, hne, hx, hy, h.alone m hm]

theorem sound (h : t.Sound) : (t.link p n ys.head?).Sound where
  childList q := by
    have hcl := i.childList h
    by_cases hq : p = q
    · subst q
      exact ⟨_, hcl.link i.has i.has_parent i.root⟩
    · obtain ⟨cs, hcs⟩ := h.childList q
      exact ⟨cs, hcl.link_other i.has i.has_parent i.root hcs hq⟩
  alone _ hm := i.alone h hm
  acyclic := i.acyclic h

theorem children_link (h : t.Sound) :
    (t.link p n ys.head?).children p = xs ++ n :: ys :=
  ((i.childList h).link i.has i.has_parent i.root).children_eq

theorem children_link_other (h : t.Sound) {q : NodeId} (hq : p ≠ q) :
    (t.link p n ys.head?).children q = t.children q :=
  ((i.childList h).link_other i.has i.has_parent i.root (h.childList_children q) hq).children_eq

end Insertable

/-! ## Taking a node out -/

@[simp] theorem size_unlink {t : Tree} {n : NodeId} : (t.unlink n).nodes.size = t.nodes.size := by
  unfold unlink
  split <;> simp

@[simp] theorem has_unlink {t : Tree} {n m : NodeId} : (t.unlink n).has m = t.has m := by
  simp [has]

@[simp] theorem data?_unlink {t : Tree} {n m : NodeId} : (t.unlink n).data? m = t.data? m := by
  unfold unlink
  split <;> simp

@[simp] theorem element?_unlink {t : Tree} {n m : NodeId} :
    (t.unlink n).element? m = t.element? m := by
  simp [element?]

namespace Sound

variable {t : Tree} {p n m : NodeId}

theorem parent?_unlink (hp : t.parent? n = some p) :
    (t.unlink n).parent? m = if n = m then none else t.parent? m := by
  simp [unlink, hp, has_of_parent hp]

/-- The list of children that a node is taken out of. -/
theorem childList_split (h : t.Sound) (hp : t.parent? n = some p) :
    ∃ xs ys, t.children p = xs ++ n :: ys ∧ t.ChildList p (xs ++ n :: ys) := by
  obtain ⟨xs, ys, he⟩ := List.append_of_mem (h.mem_children.mpr hp)
  have := h.childList_children p
  rw [he] at this
  exact ⟨xs, ys, he, this⟩

theorem children_unlink (h : t.Sound) {xs ys : List NodeId}
    (he : t.children p = xs ++ n :: ys) : (t.unlink n).children p = xs ++ ys := by
  have := h.childList_children p
  rw [he] at this
  exact this.unlink.children_eq

theorem children_unlink_other (h : t.Sound) (hp : t.parent? n = some p) {q : NodeId}
    (hq : p ≠ q) : (t.unlink n).children q = t.children q := by
  obtain ⟨xs, ys, -, hcl⟩ := h.childList_split hp
  exact (hcl.unlink_other (h.childList_children q) hq).children_eq

theorem unlink (h : t.Sound) (hp : t.parent? n = some p) : (t.unlink n).Sound where
  childList q := by
    obtain ⟨xs, ys, -, hcl⟩ := h.childList_split hp
    by_cases hq : p = q
    · subst q
      exact ⟨_, hcl.unlink⟩
    · obtain ⟨cs, hcs⟩ := h.childList q
      exact ⟨cs, hcl.unlink_other hcs hq⟩
  alone m hm := by
    obtain ⟨xs, ys, -, hcl⟩ := h.childList_split hp
    have hroom : ∀ c ∈ xs ++ n :: ys, t.parent? c = some p := fun c hc => (hcl.mem c).mp hc
    have hx : xs.getLast?.all (t.has ·) = true := hcl.has_getLast
    have hy : ys.head?.all (t.has ·) = true := by
      have : t.ChildList p ((xs ++ [n]) ++ ys) := by simpa using hcl
      exact this.has_head
    rw [parent?_unlink hp] at hm
    rw [hcl.unlink_eq]
    by_cases hne : n = m
    · -- The node is no neighbour of itself, so nothing is written to it after it is cut off.
      subst m
      have hnd := hcl.nodup
      rw [List.nodup_middle, List.nodup_cons] at hnd
      have hxn : xs.getLast? ≠ some n := fun he =>
        hnd.1 (List.mem_append_left ys (List.mem_of_getLast? he))
      have hyn : ys.head? ≠ some n := fun he =>
        hnd.1 (List.mem_append_right xs (List.mem_of_head? he))
      simp [has_of_parent hp, hx, hy, hxn, hyn]
    · -- The neighbours keep their parent, so another root is none of them.
      rw [if_neg hne] at hm
      have hxm : xs.getLast? ≠ some m := by
        intro he
        have := hroom m (by simp [List.mem_of_getLast? he])
        simp [hm] at this
      have hym : ys.head? ≠ some m := by
        intro he
        have := hroom m (by simp [List.mem_of_head? he])
        simp [hm] at this
      simp [has_of_parent hp, hx, hy, hxm, hym, hne, h.alone m hm]
  acyclic m := by
    induction h.acyclic m with
    | intro m _ ih =>
      -- Every parent left was a parent before.
      refine ⟨_, fun q hq => ih q ?_⟩
      rw [parent?_unlink hp] at hq
      split at hq
      · cases hq
      · exact hq

end Sound

end StyleTree.Tree
