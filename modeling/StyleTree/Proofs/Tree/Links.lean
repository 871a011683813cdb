import Mathlib.Data.List.Nodup
import StyleTree.Tree.Basic

/-!
# Links

What the links of a tree mean. `Chain` says of a list of siblings that its links go to and fro
between neighbours, `ChildList` that a list is what the links of a node make its children. Taking a
node out and putting it in change the links of four nodes at most; the lemmas below say what this
does to the child lists.
-/

namespace StyleTree.Tree

/-! ## Nodes after a change -/

theorem get?_update (t : Tree) (n m : NodeId) (f : Node → Node) :
    (t.update n f).get? m = if n = m then (t.get? m).map f else t.get? m := by
  simp only [get?, update, Array.getElem?_modify]

@[simp] theorem size_update (t : Tree) (n : NodeId) (f : Node → Node) :
    (t.update n f).nodes.size = t.nodes.size := by
  simp [update]

theorem has_iff (t : Tree) (n : NodeId) : t.has n = true ↔ ∃ node, t.get? n = some node := by
  simp only [has, get?, decide_eq_true_eq]
  constructor
  · intro h
    exact ⟨t.nodes[n], Array.getElem?_eq_getElem h⟩
  · rintro ⟨node, h⟩
    exact (Array.getElem?_eq_some_iff.mp h).1

theorem has_of_parent {t : Tree} {c p : NodeId} (h : t.parent? c = some p) : t.has c = true := by
  obtain ⟨node, hn, -⟩ := Option.bind_eq_some_iff.mp h
  exact (t.has_iff c).mpr ⟨node, hn⟩

theorem parent?_of_not_has {t : Tree} {n : NodeId} (h : t.has n = false) : t.parent? n = none := by
  cases hp : t.parent? n with
  | none => rfl
  | some p =>
    rw [has_of_parent hp] at h
    cases h

theorem has_of_data? {t : Tree} {n : NodeId} {data : NodeData} (h : t.data? n = some data) :
    t.has n = true := by
  obtain ⟨node, hnode, -⟩ := Option.map_eq_some_iff.mp h
  exact (t.has_iff n).mpr ⟨node, hnode⟩

theorem exists_data? {t : Tree} {n : NodeId} (h : t.has n = true) :
    ∃ data, t.data? n = some data := by
  obtain ⟨node, hnode⟩ := (t.has_iff n).mp h
  exact ⟨node.data, by rw [data?, hnode, Option.map_some]⟩

/-! ## Links after a change -/

section Setters

variable (t : Tree) (p n m : NodeId) (parent prev next : Option NodeId)

@[simp] theorem size_setPlace :
    (t.setPlace n parent prev next).nodes.size = t.nodes.size := by
  simp [setPlace]

@[simp] theorem size_setNext : (t.setNext p prev next).nodes.size = t.nodes.size := by
  cases prev <;> simp [setNext]

@[simp] theorem size_setPrev : (t.setPrev p next prev).nodes.size = t.nodes.size := by
  cases next <;> simp [setPrev]

variable {t n}

theorem data?_update {f : Node → Node} (hf : ∀ x, (f x).data = x.data) :
    (t.update n f).data? m = t.data? m := by
  unfold data?
  rw [get?_update]
  split
  · cases t.get? m <;> simp [hf]
  · rfl

/-- A link that the change keeps. -/
theorem bind_update {f : Node → Node} {link : Node → Option NodeId}
    (hf : ∀ x, link (f x) = link x) :
    ((t.update n f).get? m).bind link = (t.get? m).bind link := by
  rw [get?_update]
  split
  · cases t.get? m <;> simp [hf]
  · rfl

/-- A link that the change sets. -/
theorem bind_update_set {f : Node → Node} {link : Node → Option NodeId} {v : Option NodeId}
    (hn : t.has n = true) (hf : ∀ x, link (f x) = v) :
    ((t.update n f).get? m).bind link = if n = m then v else (t.get? m).bind link := by
  rw [get?_update]
  split
  · subst m
    obtain ⟨node, h⟩ := (t.has_iff n).mp hn
    simp [h, hf]
  · rfl

variable {parent prev next p}

@[simp] theorem data?_setPlace : (t.setPlace n parent prev next).data? m = t.data? m :=
  data?_update m fun _ => rfl

@[simp] theorem parent?_setPlace (hn : t.has n = true) :
    (t.setPlace n parent prev next).parent? m = if n = m then parent else t.parent? m :=
  bind_update_set m hn fun _ => rfl

@[simp] theorem firstChild?_setPlace :
    (t.setPlace n parent prev next).firstChild? m = t.firstChild? m :=
  bind_update m fun _ => rfl

@[simp] theorem lastChild?_setPlace :
    (t.setPlace n parent prev next).lastChild? m = t.lastChild? m :=
  bind_update m fun _ => rfl

@[simp] theorem prevSibling?_setPlace (hn : t.has n = true) :
    (t.setPlace n parent prev next).prevSibling? m = if n = m then prev else t.prevSibling? m :=
  bind_update_set m hn fun _ => rfl

@[simp] theorem nextSibling?_setPlace (hn : t.has n = true) :
    (t.setPlace n parent prev next).nextSibling? m = if n = m then next else t.nextSibling? m :=
  bind_update_set m hn fun _ => rfl

@[simp] theorem data?_setNext : (t.setNext p prev next).data? m = t.data? m := by
  cases prev <;> exact data?_update m fun _ => rfl

@[simp] theorem parent?_setNext : (t.setNext p prev next).parent? m = t.parent? m := by
  cases prev <;> exact bind_update m fun _ => rfl

@[simp] theorem lastChild?_setNext : (t.setNext p prev next).lastChild? m = t.lastChild? m := by
  cases prev <;> exact bind_update m fun _ => rfl

@[simp] theorem prevSibling?_setNext :
    (t.setNext p prev next).prevSibling? m = t.prevSibling? m := by
  cases prev <;> exact bind_update m fun _ => rfl

@[simp] theorem nextSibling?_setNext (h : prev.all (t.has ·) = true) :
    (t.setNext p prev next).nextSibling? m =
      if prev = some m then next else t.nextSibling? m := by
  cases prev with
  | none => exact bind_update m fun _ => rfl
  | some k =>
    simp only [Option.some.injEq]
    exact bind_update_set m h fun _ => rfl

@[simp] theorem firstChild?_setNext (hp : t.has p = true) :
    (t.setNext p prev next).firstChild? m =
      if prev = none ∧ p = m then next else t.firstChild? m := by
  cases prev with
  | none =>
    simp only [true_and]
    exact bind_update_set m hp fun _ => rfl
  | some k =>
    simp only [reduceCtorEq, false_and, if_false]
    exact bind_update m fun _ => rfl

@[simp] theorem data?_setPrev : (t.setPrev p next prev).data? m = t.data? m := by
  cases next <;> exact data?_update m fun _ => rfl

@[simp] theorem parent?_setPrev : (t.setPrev p next prev).parent? m = t.parent? m := by
  cases next <;> exact bind_update m fun _ => rfl

@[simp] theorem firstChild?_setPrev : (t.setPrev p next prev).firstChild? m = t.firstChild? m := by
  cases next <;> exact bind_update m fun _ => rfl

@[simp] theorem nextSibling?_setPrev :
    (t.setPrev p next prev).nextSibling? m = t.nextSibling? m := by
  cases next <;> exact bind_update m fun _ => rfl

@[simp] theorem prevSibling?_setPrev (h : next.all (t.has ·) = true) :
    (t.setPrev p next prev).prevSibling? m =
      if next = some m then prev else t.prevSibling? m := by
  cases next with
  | none => exact bind_update m fun _ => rfl
  | some k =>
    simp only [Option.some.injEq]
    exact bind_update_set m h fun _ => rfl

@[simp] theorem lastChild?_setPrev (hp : t.has p = true) :
    (t.setPrev p next prev).lastChild? m =
      if next = none ∧ p = m then prev else t.lastChild? m := by
  cases next with
  | none =>
    simp only [true_and]
    exact bind_update_set m hp fun _ => rfl
  | some k =>
    simp only [reduceCtorEq, false_and, if_false]
    exact bind_update m fun _ => rfl

end Setters

@[simp] theorem has_setPlace {t : Tree} {n m : NodeId} {parent prev next : Option NodeId} :
    (t.setPlace n parent prev next).has m = t.has m := by
  simp [has]

@[simp] theorem has_setNext {t : Tree} {p m : NodeId} {prev next : Option NodeId} :
    (t.setNext p prev next).has m = t.has m := by
  simp [has]

/-! ## Chains of siblings -/

/-- The links of the siblings go to and fro between neighbours, and lead to `before` and `after`
at the ends. -/
def Chain (t : Tree) : Option NodeId → List NodeId → Option NodeId → Prop
  | _, [], _ => True
  | before, c :: cs, after =>
    t.prevSibling? c = before ∧ t.nextSibling? c = cs.head?.or after ∧ t.Chain (some c) cs after

section Chain

variable {t u : Tree} {before after : Option NodeId}

theorem chain_append {xs ys : List NodeId} :
    t.Chain before (xs ++ ys) after ↔
      t.Chain before xs (ys.head?.or after) ∧ t.Chain (xs.getLast?.or before) ys after := by
  induction xs generalizing before with
  | nil => simp [Chain]
  | cons x xs ih =>
    simp only [List.cons_append, Chain, ih, List.head?_append, Option.or_assoc, and_assoc]
    cases xs <;> simp [List.getLast?_cons]

theorem Chain.congr {cs : List NodeId} (h : t.Chain before cs after)
    (hprev : ∀ c ∈ cs, u.prevSibling? c = t.prevSibling? c)
    (hnext : ∀ c ∈ cs, u.nextSibling? c = t.nextSibling? c) : u.Chain before cs after := by
  induction cs generalizing before with
  | nil => trivial
  | cons c cs ih =>
    obtain ⟨hp, hn, hc⟩ := h
    refine ⟨?_, ?_, ih hc (fun d hd => hprev d ?_) (fun d hd => hnext d ?_)⟩
    · rw [hprev c (by simp), hp]
    · rw [hnext c (by simp), hn]
    · exact List.mem_cons_of_mem c hd
    · exact List.mem_cons_of_mem c hd

/-- Only the link at the end of the chain is another one. -/
theorem Chain.relink_end {after' : Option NodeId} {cs : List NodeId} (h : t.Chain before cs after)
    (hnd : cs.Nodup) (hprev : ∀ c ∈ cs, u.prevSibling? c = t.prevSibling? c)
    (hnext : ∀ c ∈ cs, u.nextSibling? c =
      if cs.getLast? = some c then after' else t.nextSibling? c) :
    u.Chain before cs after' := by
  induction cs generalizing before with
  | nil => trivial
  | cons c cs ih =>
    obtain ⟨hp, hn, hc⟩ := h
    obtain ⟨hmem, hnd'⟩ := List.nodup_cons.mp hnd
    refine ⟨by rw [hprev c (by simp), hp], ?_, ih hc hnd' (fun d hd => hprev d (by simp [hd])) ?_⟩
    · rw [hnext c (by simp)]
      cases cs with
      | nil => simp
      | cons d ds =>
        have hlast : (c :: d :: ds).getLast? ≠ some c := by
          intro he
          rw [List.getLast?_cons_cons] at he
          exact hmem (List.mem_of_getLast? he)
        rw [if_neg hlast, hn]
        rfl
    · intro d hd
      rw [hnext d (by simp [hd])]
      cases cs with
      | nil => simp at hd
      | cons e es => rw [List.getLast?_cons_cons]

/-- Only the link at the start of the chain is another one. -/
theorem Chain.relink_start {before' : Option NodeId} {cs : List NodeId}
    (h : t.Chain before cs after) (hnd : cs.Nodup)
    (hprev : ∀ c ∈ cs, u.prevSibling? c = if cs.head? = some c then before' else t.prevSibling? c)
    (hnext : ∀ c ∈ cs, u.nextSibling? c = t.nextSibling? c) :
    u.Chain before' cs after := by
  cases cs with
  | nil => trivial
  | cons c cs =>
    obtain ⟨hp, hn, hc⟩ := h
    obtain ⟨hmem, hnd'⟩ := List.nodup_cons.mp hnd
    refine ⟨by simp [hprev c], by rw [hnext c (by simp), hn], hc.congr ?_ ?_⟩
    · intro d hd
      have hne : c ≠ d := by
        rintro rfl
        exact hmem hd
      simp [hprev d (List.mem_cons_of_mem c hd), hne]
    · intro d hd
      exact hnext d (List.mem_cons_of_mem c hd)

end Chain

/-! ## Child lists -/

/-- The links of `p` and of the nodes below it make `cs` its children. -/
structure ChildList (t : Tree) (p : NodeId) (cs : List NodeId) : Prop where
  first : t.firstChild? p = cs.head?
  last : t.lastChild? p = cs.getLast?
  chain : t.Chain none cs none
  nodup : cs.Nodup
  mem : ∀ c, c ∈ cs ↔ t.parent? c = some p

namespace ChildList

variable {t : Tree} {p q n : NodeId}

theorem has {cs : List NodeId} (h : t.ChildList p cs) {c : NodeId} (hc : c ∈ cs) :
    t.has c = true :=
  has_of_parent ((h.mem c).mp hc)

/-- What `link` takes for the sibling before the new child is the one before its place. -/
theorem prev_eq {xs ys : List NodeId} (h : t.ChildList p (xs ++ ys)) :
    ys.head?.elim (t.lastChild? p) t.prevSibling? = xs.getLast? := by
  cases ys with
  | nil => simpa using h.last
  | cons y ys =>
    have := (chain_append.mp h.chain).2.1
    simpa using this

theorem has_getLast {xs ys : List NodeId} (h : t.ChildList p (xs ++ ys)) :
    xs.getLast?.all (t.has ·) = true := by
  rw [Option.all_eq_true]
  intro k hk
  exact h.has (List.mem_append_left ys (List.mem_of_getLast? hk))

theorem has_head {xs ys : List NodeId} (h : t.ChildList p (xs ++ ys)) :
    ys.head?.all (t.has ·) = true := by
  rw [Option.all_eq_true]
  intro k hk
  exact h.has (List.mem_append_right xs (List.mem_of_head? hk))

/-- A node that is put in stands where the list says, between `xs` and `ys`. -/
theorem link {xs ys : List NodeId} (h : t.ChildList p (xs ++ ys)) (hn : t.has n = true)
    (hp : t.has p = true) (hroot : t.parent? n = none) :
    (t.link p n ys.head?).ChildList p (xs ++ n :: ys) := by
  have hnew : ∀ c ∈ xs ++ ys, n ≠ c := by
    rintro c hc rfl
    simp [(h.mem n).mp hc] at hroot
  obtain ⟨hxs, hys⟩ := chain_append.mp h.chain
  obtain ⟨hndx, hndy, hdisj⟩ := List.nodup_append.mp h.nodup
  have hx := h.has_getLast
  have hy := h.has_head
  unfold Tree.link
  rw [h.prev_eq]
  constructor
  case first => cases xs <;> simp [hp, h.first]
  case last => cases ys <;> simp [hp, h.last]
  case nodup =>
    rw [List.nodup_middle, List.nodup_cons]
    exact ⟨fun hc => hnew n hc rfl, h.nodup⟩
  case mem =>
    intro c
    by_cases hc : n = c
    · subst c
      simp [hn]
    · simp [hn, hc, Ne.symm hc, ← h.mem]
  case chain =>
    -- The chain is cut at the place of the new child; two links lead to it and two from it.
    rw [chain_append]
    refine ⟨hxs.relink_end hndx ?_ ?_, ?_, ?_, hys.relink_start hndy ?_ ?_⟩
    · intro c hc
      have hne := hnew c (List.mem_append_left ys hc)
      have : ys.head? ≠ some c := fun he => hdisj c hc c (List.mem_of_head? he) rfl
      simp [hn, hy, hne, this]
    · intro c hc
      have hne := hnew c (List.mem_append_left ys hc)
      simp [hn, hx, hne]
    · have : ys.head? ≠ some n := fun he =>
        hnew n (List.mem_append_right xs (List.mem_of_head? he)) rfl
      simp [hn, hy, this]
    · have : xs.getLast? ≠ some n := fun he =>
        hnew n (List.mem_append_left ys (List.mem_of_getLast? he)) rfl
      simp [hn, hx, this]
    · intro c hc
      have hne := hnew c (List.mem_append_right xs hc)
      simp [hn, hy, hne]
    · intro c hc
      have hne := hnew c (List.mem_append_right xs hc)
      have : xs.getLast? ≠ some c := fun he => hdisj c (List.mem_of_getLast? he) c hc rfl
      simp [hn, hx, hne, this]

/-- Putting a node in changes no other child list. -/
theorem link_other {xs ys cs : List NodeId} (h : t.ChildList p (xs ++ ys)) (hn : t.has n = true)
    (hp : t.has p = true) (hroot : t.parent? n = none) (hq : t.ChildList q cs) (hne : p ≠ q) :
    (t.link p n ys.head?).ChildList q cs := by
  -- Children of two nodes are different, so none of these links is written.
  have hdisj : ∀ c ∈ xs ++ ys, ∀ d ∈ cs, c ≠ d := by
    rintro c hc d hd rfl
    exact hne (Option.some.inj (((h.mem c).mp hc).symm.trans ((hq.mem c).mp hd)))
  have hnew : ∀ c ∈ cs, n ≠ c := by
    rintro c hc rfl
    simp [(hq.mem n).mp hc] at hroot
  have hx := h.has_getLast
  have hy := h.has_head
  have hxs : ∀ c ∈ cs, xs.getLast? ≠ some c := fun c hc he =>
    hdisj c (List.mem_append_left ys (List.mem_of_getLast? he)) c hc rfl
  have hys : ∀ c ∈ cs, ys.head? ≠ some c := fun c hc he =>
    hdisj c (List.mem_append_right xs (List.mem_of_head? he)) c hc rfl
  unfold Tree.link
  rw [h.prev_eq]
  constructor
  case first => simp [hp, hne, hq.first]
  case last => simp [hp, hne, hq.last]
  case nodup => exact hq.nodup
  case mem =>
    intro c
    by_cases hc : n = c
    · subst c
      simp [hn, hne, hq.mem, hroot]
    · simp [hn, hc, ← hq.mem]
  case chain =>
    refine hq.chain.congr ?_ ?_
    · intro c hc
      simp [hn, hy, hnew c hc, hys c hc]
    · intro c hc
      simp [hn, hx, hnew c hc, hxs c hc]

theorem has_self {xs ys : List NodeId} (h : t.ChildList p (xs ++ n :: ys)) : t.has p = true := by
  have hf : ((t.get? p).bind (·.firstChild)).isSome = true := by
    show (t.firstChild? p).isSome = true
    rw [h.first]
    cases xs <;> rfl
  rw [has_iff]
  cases hp : t.get? p with
  | none => simp [hp] at hf
  | some node => exact ⟨node, rfl⟩

/-- What `unlink` does to a node between `xs` and `ys`. -/
theorem unlink_eq {xs ys : List NodeId} (h : t.ChildList p (xs ++ n :: ys)) :
    t.unlink n = ((t.setPlace n none none none).setNext p xs.getLast? ys.head?).setPrev p
      ys.head? xs.getLast? := by
  have hparent : t.parent? n = some p := (h.mem n).mp (by simp)
  obtain ⟨-, hprev, hnext, -⟩ := chain_append.mp h.chain
  simp only [Option.or_none] at hprev hnext
  simp only [Tree.unlink, hparent, hprev, hnext]

/-- A node that is taken out is gone from the list. -/
theorem unlink {xs ys : List NodeId} (h : t.ChildList p (xs ++ n :: ys)) :
    (t.unlink n).ChildList p (xs ++ ys) := by
  have hp := h.has_self
  have hn : t.has n = true := h.has (by simp)
  have hx := h.has_getLast
  have hy : ys.head?.all (t.has ·) = true := by
    rw [Option.all_eq_true]
    intro k hk
    exact h.has (by simp [List.mem_of_head? hk])
  have hnd := h.nodup
  rw [List.nodup_middle, List.nodup_cons] at hnd
  obtain ⟨hmem, hnd⟩ := hnd
  obtain ⟨hndx, hndy, hdisj⟩ := List.nodup_append.mp hnd
  have hold : ∀ c ∈ xs ++ ys, n ≠ c := by
    rintro c hc rfl
    exact hmem hc
  obtain ⟨hxs, -, -, hys⟩ := chain_append.mp h.chain
  rw [h.unlink_eq]
  constructor
  case first =>
    have := h.first
    cases xs <;> simp_all
  case last =>
    have := h.last
    cases ys <;> simp_all
  case nodup => exact hnd
  case mem =>
    intro c
    by_cases hc : n = c
    · subst c
      simp [hn, hmem]
    · have := h.mem c
      simp_all [Ne.symm hc]
  case chain =>
    rw [chain_append]
    refine ⟨hxs.relink_end hndx ?_ ?_, hys.relink_start hndy ?_ ?_⟩
    · intro c hc
      have hne := hold c (List.mem_append_left ys hc)
      have : ys.head? ≠ some c := fun he => hdisj c hc c (List.mem_of_head? he) rfl
      simp [hn, hy, hne, this]
    · intro c hc
      have hne := hold c (List.mem_append_left ys hc)
      simp [hn, hx, hne]
    · intro c hc
      have hne := hold c (List.mem_append_right xs hc)
      simp [hn, hy, hne]
    · intro c hc
      have hne := hold c (List.mem_append_right xs hc)
      have : xs.getLast? ≠ some c := fun he => hdisj c (List.mem_of_getLast? he) c hc rfl
      simp [hn, hx, hne, this]

/-- Taking a node out changes no other child list. -/
theorem unlink_other {xs ys cs : List NodeId} (h : t.ChildList p (xs ++ n :: ys))
    (hq : t.ChildList q cs) (hne : p ≠ q) : (t.unlink n).ChildList q cs := by
  have hp := h.has_self
  have hn : t.has n = true := h.has (by simp)
  have hx := h.has_getLast
  have hy : ys.head?.all (t.has ·) = true := by
    rw [Option.all_eq_true]
    intro k hk
    exact h.has (by simp [List.mem_of_head? hk])
  have hdisj : ∀ c ∈ xs ++ n :: ys, ∀ d ∈ cs, c ≠ d := by
    rintro c hc d hd rfl
    exact hne (Option.some.inj (((h.mem c).mp hc).symm.trans ((hq.mem c).mp hd)))
  have hold : ∀ c ∈ cs, n ≠ c := hdisj n (by simp)
  have hxs : ∀ c ∈ cs, xs.getLast? ≠ some c := fun c hc he =>
    hdisj c (by simp [List.mem_of_getLast? he]) c hc rfl
  have hys : ∀ c ∈ cs, ys.head? ≠ some c := fun c hc he =>
    hdisj c (by simp [List.mem_of_head? he]) c hc rfl
  rw [h.unlink_eq]
  constructor
  case first => simp [hp, hne, hq.first]
  case last => simp [hp, hne, hq.last]
  case nodup => exact hq.nodup
  case mem =>
    intro c
    by_cases hc : n = c
    · subst c
      simpa [hn] using fun hc => hold n hc rfl
    · simp [hn, hc, ← hq.mem]
  case chain =>
    refine hq.chain.congr ?_ ?_
    · intro c hc
      simp [hn, hy, hold c hc, hys c hc]
    · intro c hc
      simp [hn, hx, hold c hc, hxs c hc]

end ChildList

end StyleTree.Tree
