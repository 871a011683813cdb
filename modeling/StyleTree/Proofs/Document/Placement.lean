import StyleTree.Proofs.Document.Tree

/-!
# What putting in and taking out do

A node that is put in stands where it was asked for and is gone from where it stood before; a node
that is taken out is a root. In both cases all other child lists are as they were, what is below the
node among them, and so is the data of every node.
-/

namespace StyleTree

/-- The list with `n` immediately before `before`, or last, and nowhere else. Before itself a node
stays where it is. -/
def placeBefore (n : NodeId) (before : Option NodeId) (cs : List NodeId) : List NodeId :=
  if before = some n then cs
  else
    let rest := cs.erase n
    rest.takeWhile (some · != before) ++ n :: rest.dropWhile (some · != before)

example : placeBefore 2 (some 5) [2, 3, 5, 7] = [3, 2, 5, 7] := by decide

theorem placeBefore_self (n : NodeId) (cs : List NodeId) : placeBefore n (some n) cs = cs :=
  if_pos rfl

theorem placeBefore_append {n : NodeId} {xs ys : List NodeId} (hnd : (xs ++ n :: ys).Nodup) :
    placeBefore n ys.head? (xs ++ ys) = xs ++ n :: ys := by
  rw [List.nodup_middle, List.nodup_cons] at hnd
  obtain ⟨hmem, hnd⟩ := hnd
  have hne : ys.head? ≠ some n := fun he =>
    hmem (List.mem_append_right xs (List.mem_of_head? he))
  have hxs : ∀ c ∈ xs, (some c != ys.head?) = true := by
    intro c hc
    rw [bne_iff_ne]
    intro he
    exact (List.nodup_append.mp hnd).2.2 c hc c (List.mem_of_head? he.symm) rfl
  have hys : ys.takeWhile (some · != ys.head?) = [] ∧ ys.dropWhile (some · != ys.head?) = ys := by
    cases ys <;> simp
  rw [placeBefore, if_neg hne, List.erase_of_not_mem hmem]
  dsimp only
  rw [List.takeWhile_append_of_pos hxs, List.dropWhile_append_of_pos hxs, hys.1, hys.2,
    List.append_nil]

theorem placeBefore_erase {n : NodeId} {before : Option NodeId} {cs : List NodeId}
    (hne : before ≠ some n) (hnd : cs.Nodup) :
    placeBefore n before (cs.erase n) = placeBefore n before cs := by
  rw [placeBefore, placeBefore, if_neg hne, if_neg hne,
    List.erase_of_not_mem (List.Nodup.not_mem_erase hnd)]

namespace Tree

/-- The tree `u` is `t` after `n` was put in below `p`, before `before` or last. -/
structure PutIn (t u : Tree) (p n : NodeId) (before : Option NodeId) : Prop where
  children : u.children p = placeBefore n before (t.children p)
  left : ∀ q, t.parent? n = some q → q ≠ p → u.children q = (t.children q).erase n
  other : ∀ q, t.parent? n ≠ some q → q ≠ p → u.children q = t.children q
  below : u.preorder n = t.preorder n
  children_below : ∀ m ∈ t.preorder n, u.children m = t.children m
  parent : u.parent? n = some p
  parents : ∀ m, m ≠ n → u.parent? m = t.parent? m
  data : ∀ m, u.data? m = t.data? m

/-- The tree `u` is `t` after `n` was taken out from below `p`. -/
structure TakenOut (t u : Tree) (p n : NodeId) : Prop where
  mem : n ∈ t.children p
  children : u.children p = (t.children p).erase n
  other : ∀ q, q ≠ p → u.children q = t.children q
  below : u.preorder n = t.preorder n
  parent : u.parent? n = none
  prevSibling : u.prevSibling? n = none
  nextSibling : u.nextSibling? n = none
  parents : ∀ m, m ≠ n → u.parent? m = t.parent? m
  data : ∀ m, u.data? m = t.data? m

namespace Sound

variable {t : Tree} (h : t.Sound) {p n : NodeId}

include h

theorem takenOut_unlink (hp : t.parent? n = some p) : t.TakenOut (t.unlink n) p n := by
  obtain ⟨xs, ys, he, hcl⟩ := h.childList_split hp
  obtain ⟨_, _, g⟩ := h.graft_unlink hp
  have hroot : (t.unlink n).parent? n = none := by rw [parent?_unlink hp, if_pos rfl]
  have halone := (h.unlink hp).alone n hroot
  constructor
  case mem => exact h.mem_children.mpr hp
  case children =>
    have hn : n ∉ xs := by
      have hnd := hcl.nodup
      rw [List.nodup_middle, List.nodup_cons] at hnd
      exact fun hmem => hnd.1 (List.mem_append_left ys hmem)
    rw [h.children_unlink he, he, List.erase_append_right _ hn, List.erase_cons_head]
  case other => exact fun q hq => h.children_unlink_other hp (Ne.symm hq)
  case below => exact g.preorder_self.symm
  case parent => exact hroot
  case prevSibling => exact halone.1
  case nextSibling => exact halone.2
  case parents => exact fun m hm => by rw [parent?_unlink hp, if_neg (Ne.symm hm)]
  case data => exact fun _ => data?_unlink

end Sound

/-- A root is put in. -/
theorem Insertable.putIn {t : Tree} {p n : NodeId} {xs ys : List NodeId}
    (i : t.Insertable p n xs ys) (h : t.Sound) :
    t.PutIn (t.link p n ys.head?) p n ys.head? := by
  have g := i.graft h
  have hne : ∀ m ∈ t.preorder n, p ≠ m := by
    rintro m hm rfl
    exact g.not_mem_self hm
  constructor
  case children =>
    have hnd := g.sound'.nodup_children p
    rw [g.children'] at hnd
    rw [g.children', g.children, placeBefore_append hnd]
  case left =>
    intro q hq
    rw [g.root] at hq
    cases hq
  case other => exact fun q _ hq => g.other q (Ne.symm hq)
  case below => exact g.preorder_self
  case children_below => exact fun m hm => g.other m (hne m hm)
  case parent => exact g.parent_self
  case parents => exact fun m hm => by rw [g.parent, if_neg (Ne.symm hm)]
  case data => exact fun _ => data?_link

/-- A child is put in after it was taken out. What follows it stays where it is if it was to be put
in before itself. -/
theorem PutIn.of_unlink {t u : Tree} (h : t.Sound) {p n old : NodeId} {before : Option NodeId}
    (hold : t.parent? n = some old) (hself : before = some n → old = p)
    (hput : (t.unlink n).PutIn u p n (if before = some n then t.nextSibling? n else before)) :
    t.PutIn u p n before := by
  have hout := h.takenOut_unlink hold
  constructor
  case children =>
    by_cases hb : before = some n
    · obtain rfl := hself hb
      obtain ⟨xs, ys, he, hcl⟩ := h.childList_split hold
      rw [hput.children, if_pos hb, h.nextSibling?_eq he, h.children_unlink he,
        placeBefore_append hcl.nodup, hb, placeBefore_self, he]
    · rw [hput.children, if_neg hb]
      by_cases hp : p = old
      · subst p
        rw [hout.children, placeBefore_erase hb (h.nodup_children old)]
      · rw [hout.other p hp]
  case left =>
    intro q hq hqp
    obtain rfl := Option.some.inj (hold.symm.trans hq)
    rw [hput.other old (by simp [hout.parent]) hqp, hout.children]
  case other =>
    intro q hq hqp
    have hne : q ≠ old := by
      rintro rfl
      exact hq hold
    rw [hput.other q (by simp [hout.parent]) hqp, hout.other q hne]
  case below => rw [hput.below, hout.below]
  case children_below =>
    intro m hm
    have hne : m ≠ old := by
      rintro rfl
      exact h.not_mem_preorder_child hold hm
    rw [hput.children_below m (by rwa [hout.below]), hout.other m hne]
  case parent => exact hput.parent
  case parents => exact fun m hm => (hput.parents m hm).trans (hout.parents m hm)
  case data => exact fun m => (hput.data m).trans (hout.data m)

end Tree

namespace Document

variable {d d' : Document} {p n : NodeId}

/-- Nothing differs but the tree and what the documents keep of style sheets and styles. -/
def SameBesideTree (d d' : Document) : Prop :=
  d' = { d.withTree d'.page.tree with sheets := d'.sheets, cache := d'.cache }

theorem SameBesideTree.refl (d : Document) : d.SameBesideTree d :=
  rfl

theorem sameBesideTree_notifyAll (c : Change) (nodes : List NodeId) (h : d.SameBesideTree d') :
    d.SameBesideTree (d'.notifyAll c nodes) := by
  obtain ⟨sheets, cache, hframe⟩ := notifyAll_frame d' c nodes
  rw [hframe]
  unfold SameBesideTree at h ⊢
  rw [h]
  rfl

theorem sameBesideTree_detach (d : Document) (p n : NodeId) : d.SameBesideTree (d.detach p n) :=
  sameBesideTree_notifyAll _ _ (sameBesideTree_notifyAll _ _ rfl)

theorem sameBesideTree_attach (h : d.SameBesideTree d') (before : Option NodeId) :
    d.SameBesideTree (d'.attach p n before) := by
  refine sameBesideTree_notifyAll _ _ (sameBesideTree_notifyAll _ _ ?_)
  unfold SameBesideTree at h ⊢
  rw [h]
  rfl

theorem putIn_insertBefore (h : d.page.tree.Sound) {before : Option NodeId}
    (hrun : Edit.insertBefore p n before d = .ok () d') :
    d.page.tree.PutIn d'.page.tree p n before ∧ d.SameBesideTree d' := by
  cases hcheck : Edit.insertionError? d.page.tree p n before with
  | some e =>
    rw [Edit.insertBefore_refused hcheck] at hrun
    cases hrun
  | none =>
    obtain ⟨parent, child, hcan⟩ := canInsert_of_insertionError? hcheck
    cases hold : d.page.tree.parent? n with
    | none =>
      rw [Edit.insertBefore_root hcheck hold] at hrun
      cases hrun
      obtain ⟨xs, ys, rfl, i⟩ := hcan.insertable h hold
      rw [tree_attach]
      exact ⟨i.putIn h, sameBesideTree_attach (.refl d) _⟩
    | some old =>
      rw [Edit.insertBefore_move h hcheck hold] at hrun
      cases hrun
      have hroot : (d.page.tree.unlink n).parent? n = none := (h.takenOut_unlink hold).parent
      obtain ⟨xs, ys, hreference, i⟩ := (hcan.unlink h hold).insertable (h.unlink hold) hroot
      have hself : before = some n → old = p := fun hb =>
        Option.some.inj (hold.symm.trans (hcan.beside n hb))
      rw [tree_attach, tree_detach]
      refine ⟨.of_unlink h hold hself ?_, sameBesideTree_attach (sameBesideTree_detach d old n) _⟩
      rw [hreference]
      exact i.putIn (h.unlink hold)

theorem takenOut_removeChild (h : d.page.tree.Sound) (hrun : Edit.removeChild p n d = .ok () d') :
    d.page.tree.TakenOut d'.page.tree p n ∧ d.SameBesideTree d' := by
  by_cases hp : d.page.tree.parent? n = some p
  · rw [Edit.removeChild_eq h hp] at hrun
    cases hrun
    rw [tree_detach]
    exact ⟨h.takenOut_unlink hp, sameBesideTree_detach d p n⟩
  · have hrefused : Edit.removeChild p n d = .error .notFound d := by
      show (if !d.page.tree.has p || d.page.tree.parent? n != some p then _ else _ :
        Edit Unit) d = _
      rw [if_pos (by simp [hp])]
      rfl
    rw [hrefused] at hrun
    cases hrun

/-- After any operations, a node that is put in stands where it was asked for and no more where it
stood before, and a node that is taken out is a root; nothing else of the tree is changed, and of
the document nothing but what it keeps of style sheets and styles. -/
theorem placement_run (doctype : Option String) (o : Options) (os : List Operation) :
    let d := (create doctype o).run os
    (∀ p n before d', Edit.insertBefore p n before d = .ok () d' →
      d.page.tree.PutIn d'.page.tree p n before ∧ d.SameBesideTree d') ∧
      ∀ p n d', Edit.removeChild p n d = .ok () d' →
        d.page.tree.TakenOut d'.page.tree p n ∧ d.SameBesideTree d' := by
  intro d
  have hsound : d.page.tree.Sound := (run_valid doctype o os).toSound
  exact ⟨fun _ _ _ _ => putIn_insertBefore hsound, fun _ _ _ => takenOut_removeChild hsound⟩

/-- The first item of a list is moved behind its neighbour, or the second one taken out. -/
theorem placement_run_items :
    let d := (create none .default).run [.createElement "ul", .createElement "li",
      .createElement "li", .createElement "li", .insertBefore Tree.root 1 none,
      .insertBefore 1 2 none, .insertBefore 1 3 none, .insertBefore 1 4 none]
    let t := d.page.tree
    ∃ moved rest, Edit.insertBefore 1 2 (some 4) d = .ok () moved ∧
      Edit.removeChild 1 3 d = .ok () rest ∧ t.children 1 = [2, 3, 4] ∧
      t.PutIn moved.page.tree 1 2 (some 4) ∧ moved.page.tree.children 1 = [3, 2, 4] ∧
      t.TakenOut rest.page.tree 1 3 ∧ rest.page.tree.children 1 = [2, 4] := by
  intro d t
  have hsound : t.Sound := (run_valid none .default _).toSound
  have hchildren : t.children 1 = [2, 3, 4] := by decide
  have hcheck : Edit.insertionError? t 1 2 (some 4) = none := by decide
  have hfirst : t.parent? 2 = some 1 := by decide
  have hsecond : t.parent? 3 = some 1 := by decide
  have hmove := Edit.insertBefore_move hsound hcheck hfirst
  have hremove := Edit.removeChild_eq hsound hsecond
  obtain ⟨hput, hout⟩ := placement_run none .default [.createElement "ul", .createElement "li",
    .createElement "li", .createElement "li", .insertBefore Tree.root 1 none,
    .insertBefore 1 2 none, .insertBefore 1 3 none, .insertBefore 1 4 none]
  have hput := (hput 1 2 (some 4) _ hmove).1
  have hout := (hout 1 3 _ hremove).1
  refine ⟨_, _, hmove, hremove, hchildren, hput, ?_, hout, ?_⟩
  · rw [hput.children, hchildren]
    decide
  · rw [hout.children, hchildren]
    decide

end Document

end StyleTree
