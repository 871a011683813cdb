import StyleTree.Proofs.Document.Course
import StyleTree.Proofs.Tree.Order

/-!
# The tree of a document

`Tree.Valid` says which trees documents have: sound ones with the document node as a root, where
every node stands below a node that may hold it. A new document has one, and so has every document
that operations lead to. `Tree.WellFormed` spells out what this means for who follows the links.
-/

namespace StyleTree

namespace Edit

/-- The data is of the same sort, and of one that can be changed. -/
inductive SameSort : NodeData → NodeData → Prop where
  | element (e f : Element) : SameSort (.element e) (.element f)
  | text (s t : String) : SameSort (.text s) (.text t)
  | comment (s t : String) : SameSort (.comment s) (.comment t)
  | entityReference (name s t : String) :
    SameSort (.entityReference name s) (.entityReference name t)
  | processingInstruction (target s t : String) :
    SameSort (.processingInstruction target s) (.processingInstruction target t)

theorem SameSort.of_withText? {text : String} {old new : NodeData}
    (h : withText? text old = some new) : SameSort old new := by
  cases old <;> cases h <;> constructor

section SameSort

variable {old new other : NodeData} (h : SameSort old new)

include h

theorem SameSort.ne_document : old ≠ .document ∧ new ≠ .document := by
  cases h <;> simp

theorem SameSort.isElement : new.isElement = old.isElement := by
  cases h <;> rfl

theorem SameSort.isMisplaced_parent : isMisplaced new other = isMisplaced old other := by
  obtain ⟨hold, hnew⟩ := h.ne_document
  cases other <;> simp [isMisplaced, hold, hnew, bne, beq_eq_false_iff_ne.mpr]

theorem SameSort.isMisplaced_child : isMisplaced other new = isMisplaced other old := by
  cases h <;> rfl

theorem SameSort.isSingle : isSingle new other = isSingle old other := by
  cases h <;> cases other <;> rfl

end SameSort

theorem isSingle_comm (a b : NodeData) : isSingle a b = isSingle b a := by
  cases a <;> cases b <;> rfl

end Edit

namespace Tree

/-- Other text is the text of no element. -/
theorem element?_setData_of_withText? {t : Tree} {n : NodeId} {old new : NodeData} {text : String}
    (hold : t.data? n = some old) (hnew : Edit.withText? text old = some new) (m : NodeId) :
    (t.setData n new).element? m = t.element? m := by
  have hnone : old.element? = none ∧ new.element? = none := by
    cases old <;> cases hnew <;> exact ⟨rfl, rfl⟩
  rw [element?_setData (has_of_data? hold)]
  split
  · subst m
    simp [element?, hold, hnone]
  · rfl

/-! ## Valid trees -/

/-- The tree is one of a document. -/
structure Valid (t : Tree) : Prop extends t.Sound where
  data_root : t.data? root = some .document
  root_of_document : ∀ n, t.data? n = some .document → n = root
  parent_root : t.parent? root = none
  placed : ∀ {c p child}, t.parent? c = some p → t.data? c = some child →
    ∃ parent, t.data? p = some parent ∧ (parent = .document ∨ parent.isElement = true) ∧
      Edit.isMisplaced parent child = false
  single : ∀ {c d x y}, t.parent? c = some root → t.parent? d = some root →
    t.data? c = some x → t.data? d = some y → Edit.isSingle x y = true → c = d

namespace Valid

variable {t : Tree} (h : t.Valid)

theorem empty : Tree.empty.Valid := by
  have hget : ∀ n, Tree.empty.get? n = if n = 0 then some { data := .document } else none := by
    intro n
    cases n <;> rfl
  have hlink : ∀ (link : Node → Option NodeId) n, link { data := .document } = none →
      (Tree.empty.get? n).bind link = none := by
    intro link n hnone
    rw [hget]
    split
    · exact hnone
    · rfl
  have hparent : ∀ n, Tree.empty.parent? n = none := fun n => hlink _ n rfl
  constructor
  case toSound =>
    refine ⟨fun p => ⟨[], hlink _ p rfl, hlink _ p rfl, trivial, List.nodup_nil, ?_⟩, ?_, ?_⟩
    · simp [hparent]
    · exact fun n _ => ⟨hlink _ n rfl, hlink _ n rfl⟩
    · refine fun n => ⟨n, fun p hp => ?_⟩
      simp [hparent] at hp
  case data_root => rfl
  case root_of_document =>
    intro n hn
    rw [data?, hget] at hn
    split at hn
    · assumption
    · cases hn
  case parent_root => exact hparent root
  case placed =>
    intro c p child hp
    simp [hparent] at hp
  case single =>
    intro c d x y hc
    simp [hparent] at hc

include h

theorem push {data : NodeData} (hdata : data ≠ .document) : (t.push data).Valid where
  toSound := h.toSound.push
  data_root := by
    rw [data?_push_of_has (has_of_data? h.data_root), h.data_root]
  root_of_document n hn := by
    rw [data?_push] at hn
    split at hn
    · exact absurd (Option.some.inj hn) hdata
    · exact h.root_of_document n hn
  parent_root := by rw [parent?_push, h.parent_root]
  placed hp hc := by
    rw [parent?_push] at hp
    rw [data?_push_of_has (has_of_parent hp)] at hc
    rw [data?_push_of_has (h.has_parent hp)]
    exact h.placed hp hc
  single hc hd hx hy := by
    rw [parent?_push] at hc hd
    rw [data?_push_of_has (has_of_parent hc)] at hx
    rw [data?_push_of_has (has_of_parent hd)] at hy
    exact h.single hc hd hx hy

theorem unlink {n p : NodeId} (hp : t.parent? n = some p) : (t.unlink n).Valid := by
  have hparent : ∀ {c q}, (t.unlink n).parent? c = some q → t.parent? c = some q := by
    intro c q hc
    rw [Sound.parent?_unlink hp] at hc
    split at hc
    · cases hc
    · exact hc
  constructor
  case toSound => exact h.toSound.unlink hp
  case data_root => rw [data?_unlink, h.data_root]
  case root_of_document =>
    intro m hm
    rw [data?_unlink] at hm
    exact h.root_of_document m hm
  case parent_root =>
    rw [Sound.parent?_unlink hp, h.parent_root]
    split <;> rfl
  case placed =>
    intro c q child hq hc
    rw [data?_unlink] at hc ⊢
    exact h.placed (hparent hq) hc
  case single =>
    intro c d x y hc hd hx hy
    rw [data?_unlink] at hx hy
    exact h.single (hparent hc) (hparent hd) hx hy

theorem link {n p : NodeId} {before : Option NodeId} {parent child : NodeData}
    (hcan : CanInsert t p n before parent child) (hroot : t.parent? n = none) :
    (t.link p n before).Valid := by
  obtain ⟨xs, ys, rfl, i⟩ := hcan.insertable h.toSound hroot
  constructor
  case toSound => exact i.sound h.toSound
  case data_root => rw [data?_link, h.data_root]
  case root_of_document =>
    intro m hm
    rw [data?_link] at hm
    exact h.root_of_document m hm
  case parent_root =>
    rw [i.parent?_link, if_neg, h.parent_root]
    -- A document can be put nowhere.
    rintro rfl
    have hplace := hcan.not_misplaced
    obtain rfl := Option.some.inj (hcan.data_child.symm.trans h.data_root)
    cases hplace
  case placed =>
    intro c q x hq hc
    rw [i.parent?_link] at hq
    rw [data?_link] at hc ⊢
    split at hq
    · subst c
      cases hq
      obtain rfl := Option.some.inj (hcan.data_child.symm.trans hc)
      exact ⟨parent, hcan.data_parent, hcan.holds_children, hcan.not_misplaced⟩
    · exact h.placed hq hc
  case single =>
    intro c d x y hc hd hx hy hxy
    -- The new child goes with no other one.
    have hnew : ∀ {c x}, p = root → n ≠ c → t.parent? c = some root → t.data? c = some x →
        Edit.isSingle child x = false := by
      rintro c x rfl hne hc hx
      have hdoc : parent = .document := by
        have := hcan.data_parent.symm.trans h.data_root
        exact Option.some.inj this
      have := hcan.single hdoc c (h.mem_children.mpr hc) (Ne.symm hne)
      simpa [hx] using this
    rw [i.parent?_link] at hc hd
    rw [data?_link] at hx hy
    by_cases hnc : n = c <;> by_cases hnd : n = d
    · exact hnc.symm.trans hnd
    · subst c
      rw [if_pos rfl] at hc
      rw [if_neg hnd] at hd
      obtain rfl := Option.some.inj (hcan.data_child.symm.trans hx)
      simp [hnew (Option.some.inj hc) hnd hd hy] at hxy
    · subst d
      rw [if_pos rfl] at hd
      rw [if_neg hnc] at hc
      obtain rfl := Option.some.inj (hcan.data_child.symm.trans hy)
      rw [Edit.isSingle_comm] at hxy
      simp [hnew (Option.some.inj hd) hnc hc hx] at hxy
    · rw [if_neg hnc] at hc
      rw [if_neg hnd] at hd
      exact h.single hc hd hx hy hxy

theorem setData {n : NodeId} {old new : NodeData} (hold : t.data? n = some old)
    (hsort : Edit.SameSort old new) : (t.setData n new).Valid := by
  obtain ⟨hdoc, hdoc'⟩ := hsort.ne_document
  have hn := has_of_data? hold
  have hdata : ∀ {m x}, (t.setData n new).data? m = some x →
      ∃ y, t.data? m = some y ∧ (x = y ∨ Edit.SameSort y x) := by
    intro m x hx
    rw [data?_setData hn] at hx
    split at hx
    · subst m
      cases hx
      exact ⟨old, hold, .inr hsort⟩
    · exact ⟨x, hx, .inl rfl⟩
  constructor
  case toSound => exact h.toSound.setData
  case data_root =>
    rw [data?_setData hn, if_neg, h.data_root]
    rintro rfl
    exact hdoc (Option.some.inj (hold.symm.trans h.data_root))
  case root_of_document =>
    intro m hm
    rw [data?_setData hn] at hm
    split at hm
    · exact absurd (Option.some.inj hm) hdoc'
    · exact h.root_of_document m hm
  case parent_root => rw [parent?_setData, h.parent_root]
  case placed =>
    intro c q x hq hc
    rw [parent?_setData] at hq
    obtain ⟨y, hy, hxy⟩ := hdata hc
    obtain ⟨parent, hparent, hholds, hplace⟩ := h.placed hq hy
    have hplace' : Edit.isMisplaced parent x = false := by
      rcases hxy with rfl | hxy
      · exact hplace
      · rw [hxy.isMisplaced_child, hplace]
    rw [data?_setData hn]
    split
    · subst q
      obtain rfl := Option.some.inj (hold.symm.trans hparent)
      refine ⟨new, rfl, .inr ?_, ?_⟩
      · rw [hsort.isElement]
        exact hholds.resolve_left hdoc
      · rw [hsort.isMisplaced_parent, hplace']
    · exact ⟨parent, hparent, hholds, hplace'⟩
  case single =>
    intro c d x y hc hd hx hy hxy
    rw [parent?_setData] at hc hd
    obtain ⟨x', hx', hxx⟩ := hdata hx
    obtain ⟨y', hy', hyy⟩ := hdata hy
    refine h.single hc hd hx' hy' ?_
    have hl : Edit.isSingle x y = Edit.isSingle x' y := by
      rcases hxx with rfl | hxx
      · rfl
      · exact hxx.isSingle
    have hr : Edit.isSingle y x' = Edit.isSingle y' x' := by
      rcases hyy with rfl | hyy
      · rfl
      · exact hyy.isSingle
    rw [Edit.isSingle_comm, ← hr, Edit.isSingle_comm, ← hl, hxy]

/-! ### The nodes of the document -/

theorem has_root : t.has root = true :=
  has_of_data? h.data_root

theorem isConnected_iff {n : NodeId} : t.isConnected n = true ↔ n ∈ t.preorder root :=
  h.toSound.isConnected_iff h.parent_root h.has_root

theorem pairwise_compare :
    (t.preorder root).Pairwise fun a b => t.compare a b = .lt ∧ t.compare b a = .gt :=
  h.toSound.pairwise_compare h.parent_root h.has_root

/-- Trees with the same nodes below the document. -/
theorem isConnected_congr {u : Tree} (hu : u.Valid) {n : NodeId}
    (hn : n ∈ u.preorder root ↔ n ∈ t.preorder root) : u.isConnected n = t.isConnected n := by
  rw [Bool.eq_iff_iff, hu.isConnected_iff, h.isConnected_iff, hn]

theorem preorder_push {data : NodeData} {n : NodeId} :
    (t.push data).preorder n = t.preorder n :=
  h.toSound.preorder_congr h.toSound.push fun _ _ => h.toSound.children_push

theorem preorder_setData {m : NodeId} {data : NodeData} {n : NodeId} :
    (t.setData m data).preorder n = t.preorder n :=
  h.toSound.preorder_congr h.toSound.setData fun _ _ => h.toSound.children_setData

end Valid

/-! ## Well-formedness -/

/-- What following the links of a document comes to. -/
structure WellFormed (t : Tree) : Prop where
  /-- The way up from every node ends. -/
  up : ∀ n, ∃ l, t.Walk (·.parent) (t.parent? n) l
  /-- The walks over the children end, are the reverse of each other, come by every node once at
  most, and by those nodes whose parent it is. -/
  children : ∀ p, ∃ cs, t.Walk (·.nextSibling) (t.firstChild? p) cs ∧
    t.Walk (·.prevSibling) (t.lastChild? p) cs.reverse ∧ cs.Nodup ∧
    ∀ c, c ∈ cs ↔ t.parent? c = some p
  alone : ∀ n, t.parent? n = none → t.prevSibling? n = none ∧ t.nextSibling? n = none
  document : ∀ n, t.data? n = some .document ↔ n = root
  parent_root : t.parent? root = none
  parents : ∀ c p, t.parent? c = some p → t.data? p = some .document ∨ t.isElement p = true
  text : ∀ c s, t.parent? c = some root → t.data? c ≠ some (.text s)
  entityReference : ∀ c name s, t.parent? c = some root →
    t.data? c ≠ some (.entityReference name s)
  doctype : ∀ c p name publicId systemId, t.parent? c = some p →
    t.data? c = some (.doctype name publicId systemId) → p = root
  one_element : ∀ c d, t.parent? c = some root → t.parent? d = some root →
    t.isElement c = true → t.isElement d = true → c = d
  one_doctype : ∀ c d n₁ p₁ s₁ n₂ p₂ s₂, t.parent? c = some root → t.parent? d = some root →
    t.data? c = some (.doctype n₁ p₁ s₁) → t.data? d = some (.doctype n₂ p₂ s₂) → c = d

theorem isElement_iff {t : Tree} {n : NodeId} :
    t.isElement n = true ↔ ∃ e, t.data? n = some (.element e) := by
  unfold isElement element?
  cases t.data? n with
  | none => simp
  | some data => cases data <;> simp [NodeData.element?]

theorem Valid.wellFormed {t : Tree} (h : t.Valid) : t.WellFormed where
  up n := ⟨_, h.walk_ancestors n⟩
  children p := by
    obtain ⟨cs, hcs⟩ := h.childList p
    refine ⟨cs, ?_, ?_, hcs.nodup, hcs.mem⟩
    · rw [hcs.first]
      exact hcs.chain.forward
    · rw [hcs.last]
      exact hcs.chain.backward
  alone := h.alone
  document n := by
    constructor
    · exact h.root_of_document n
    · rintro rfl
      exact h.data_root
  parent_root := h.parent_root
  parents c p hp := by
    obtain ⟨node, hnode⟩ := (t.has_iff c).mp (has_of_parent hp)
    have hdata : t.data? c = some node.data := by simp [data?, hnode]
    obtain ⟨parent, hparent, hholds, -⟩ := h.placed hp hdata
    rcases hholds with rfl | hholds
    · exact .inl hparent
    · refine .inr (isElement_iff.mpr ?_)
      cases parent <;> cases hholds
      exact ⟨_, hparent⟩
  text c s hc hs := by
    obtain ⟨parent, hparent, -, hplace⟩ := h.placed hc hs
    obtain rfl := Option.some.inj (hparent.symm.trans h.data_root)
    cases hplace
  entityReference c name s hc hs := by
    obtain ⟨parent, hparent, -, hplace⟩ := h.placed hc hs
    obtain rfl := Option.some.inj (hparent.symm.trans h.data_root)
    cases hplace
  doctype c p name publicId systemId hc hd := by
    obtain ⟨parent, hparent, -, hplace⟩ := h.placed hc hd
    refine h.root_of_document p ?_
    simpa [Edit.isMisplaced, hparent] using hplace
  one_element c d hc hd hx hy := by
    obtain ⟨e, he⟩ := isElement_iff.mp hx
    obtain ⟨f, hf⟩ := isElement_iff.mp hy
    exact h.single hc hd he hf rfl
  one_doctype c d _ _ _ _ _ _ hc hd hx hy := h.single hc hd hx hy rfl

end Tree

namespace Document

theorem create_valid (doctype : Option String) (o : Options) :
    (create doctype o).page.tree.Valid := by
  cases doctype with
  | none => exact .empty
  | some name =>
    have hpush : (Tree.empty.push (.doctype name "" "")).Valid := Tree.Valid.empty.push (by simp)
    have hroot : (Tree.empty.push (.doctype name "" "")).parent? Tree.empty.fresh = none :=
      Tree.parent?_push.trans Tree.parent?_fresh
    have hcan : CanInsert (Tree.empty.push (.doctype name "" "")) Tree.root Tree.empty.fresh none
        .document (.doctype name "" "") := by
      constructor
      case holds_children => exact .inl rfl
      case beside => exact fun _ h => nomatch h
      case single => exact fun _ _ h => nomatch h
      all_goals rfl
    exact hpush.link hcan hroot

theorem element?_create (doctype : Option String) (o : Options) (n : NodeId) :
    (create doctype o).page.element? n = none := by
  have hempty : Tree.empty.element? n = none := by
    cases n <;> rfl
  cases doctype with
  | none => exact hempty
  | some name =>
    show (Tree.link _ _ _ _).element? n = none
    rw [Tree.element?_link, Tree.element?_push, hempty]
    split <;> rfl

theorem step_valid {allowed : Cascade → Prop} {d d' : Document} (h : d.page.tree.Valid)
    (s : Step allowed d d') : d'.page.tree.Valid := by
  cases s with
  | push hdata => exact h.push hdata
  | detach hp =>
    rw [tree_detach]
    exact h.unlink hp
  | attach hcan hroot =>
    rw [tree_attach]
    exact h.link hcan hroot
  | attributes he hsame =>
    rw [withAttributes, page_notify]
    exact h.setData he (.element _ _)
  | states he => exact h.setData he (.element _ _)
  | text hold hnew =>
    rw [withText, page_notifyAll]
    exact h.setData hold (.of_withText? hnew)
  | url =>
    unfold withUrl
    split <;> exact h
  | header | medium | register | rebuild | cascade | loader | selectSet | enableSet => exact h
  | readSheets =>
    rw [page_readSheets]
    exact h
  | readStyle =>
    rw [page_readStyle]
    exact h

/-- What every step preserves of a document with a valid tree holds after every run. -/
theorem run_valid_induction (allowed : Cascade → Prop) {P : Document → Prop} {d : Document}
    (hstep : ∀ d d', d.page.tree.Valid → P d → Step allowed d d' → P d') (os : List Operation)
    (hc : ∀ c, .setCascade c ∈ os → allowed c) (hvalid : d.page.tree.Valid) (h : P d) :
    (d.run os).page.tree.Valid ∧ P (d.run os) :=
  run_induction allowed (P := fun d => d.page.tree.Valid ∧ P d) (fun _ h => h.1.toSound)
    (fun d d' h s => ⟨step_valid h.1 s, hstep d d' h.1 h.2 s⟩) os hc ⟨hvalid, h⟩

theorem perform_valid {d : Document} (h : d.page.tree.Valid) (o : Operation) :
    (d.perform o).page.tree.Valid :=
  run_induction (fun _ => True) (fun _ h => h.toSound) (fun _ _ => step_valid) [o]
    (fun _ _ => trivial) h

/-- Every document that operations lead to, carried out or refused, has a valid tree. -/
theorem run_valid (doctype : Option String) (o : Options) (os : List Operation) :
    ((create doctype o).run os).page.tree.Valid :=
  run_induction (fun _ => True) (fun _ h => h.toSound) (fun _ _ => step_valid) os
    (fun _ _ => trivial) (create_valid doctype o)

/-- The links of every document that operations lead to are those of a document. -/
theorem wellFormed_tree_run (doctype : Option String) (o : Options) (os : List Operation) :
    ((create doctype o).run os).page.tree.WellFormed :=
  (run_valid doctype o os).wellFormed

end Document

end StyleTree
