import StyleTree.Proofs.Sheets.Membership
import StyleTree.Proofs.Style.Elements
import StyleTree.Proofs.Style.Reading

/-!
# Loud and quiet changes

A change of a document is loud if it makes all styles stale, which a new serial says. Only what no
element is told of is quiet: a node that is created, and a node without elements that is put in,
taken out or given another text beside the root element or in no tree at all. Quiet changes leave
the elements as they are.
-/

namespace StyleTree

/-! ## Pages that differ beside the root element -/

namespace Page

variable {p q : Page}

/-- Pages with the same nodes have the same elements in either direction. -/
theorem SameElements.symm (h : SameElements p q)
    (hhas : ∀ m, q.tree.has m = p.tree.has m) : SameElements q p where
  valid := h.valid'
  valid' := h.valid
  html := h.html.symm
  mode := h.mode.symm
  url := h.url.symm
  element_of_has hm := (h.element_of_has (hhas _ ▸ hm)).symm
  parent_of_new hm := Tree.parent?_of_not_has (hhas _ ▸ hm)
  parent_of_isElement {m} hm := by
    have hp : p.isElement m = true := by
      rwa [← h.isElement_of_has (hhas m ▸ has_of_isElement hm)]
    exact (h.parent? hp).symm
  children hm := (h.children hm).symm
  data {m a} ha hne := by
    rw [← h.valid'.mem_children, h.children hne, h.valid.mem_children] at ha
    exact (h.data ha hne).symm
  childElements_root := h.childElements_root.symm
  elements := h.elements.symm

/-- A node without elements is put in below the document. -/
theorem sameElements_of_graft (hvalid : p.tree.Valid) (hvalid' : q.tree.Valid) {n : NodeId}
    {xs ys : List NodeId} (g : Tree.Graft p.tree q.tree Tree.root n xs ys)
    (hdata : ∀ m, q.tree.data? m = p.tree.data? m)
    (hnone : ∀ m ∈ p.tree.preorder n, p.isElement m = false)
    (hhtml : q.html = p.html) (hmode : q.mode = p.mode) (hurl : q.url = p.url) :
    SameElements p q := by
  have helement : ∀ m, q.element? m = p.element? m := by
    intro m
    show (q.tree.data? m).bind _ = (p.tree.data? m).bind _
    rw [hdata]
  have hisElement : q.isElement = p.isElement := by
    funext m
    show (q.element? m).isSome = (p.element? m).isSome
    rw [helement]
  have hn : p.isElement n = false := hnone n (Tree.Sound.mem_preorder_self n)
  refine ⟨hvalid, hvalid', hhtml, hmode, hurl, fun _ => helement _, ?_, ?_, ?_,
    fun _ _ => hdata _, ?_, ?_⟩
  · intro m hm
    refine Tree.parent?_of_not_has ?_
    rw [Tree.has, g.size]
    exact hm
  · intro m hm
    rw [g.parent, if_neg]
    rintro rfl
    rw [hn] at hm
    cases hm
  · intro m hm
    exact g.other m hm.symm
  · unfold childElements
    rw [g.children, g.children', hisElement, List.filter_append, List.filter_append,
      List.filter_cons_of_neg (by simp [hn])]
  · unfold elements
    rw [hisElement]
    exact g.filter_preorder hnone

/-- A new node is a root, whatever it is. -/
theorem sameElements_push (hvalid : p.tree.Valid) {data : NodeData} (hdata : data ≠ .document) :
    SameElements p { p with tree := p.tree.push data } := by
  have hold : ∀ {m}, p.tree.has m = true →
      (p.tree.push data).element? m = p.tree.element? m := by
    intro m hm
    rw [Tree.element?, Tree.data?_push_of_has hm]
    rfl
  have hfilter : ∀ {l : List NodeId}, (∀ m ∈ l, p.tree.has m = true) →
      l.filter (p.tree.push data).isElement = l.filter p.tree.isElement := by
    intro l hl
    refine List.filter_congr fun m hm => ?_
    rw [Tree.isElement, hold (hl m hm)]
    rfl
  refine ⟨hvalid, hvalid.push hdata, rfl, rfl, rfl, hold, ?_, fun _ => Tree.parent?_push, ?_, ?_,
    ?_, ?_⟩
  · intro m hm
    show (p.tree.push data).parent? m = none
    rw [Tree.parent?_push, Tree.parent?_of_not_has hm]
  · intro m _
    exact hvalid.children_push
  · intro m a ha _
    exact Tree.data?_push_of_has (Tree.has_of_parent ha)
  · show List.filter _ ((p.tree.push data).children _) = _
    rw [hvalid.children_push]
    exact hfilter fun m hm => Tree.has_of_parent (hvalid.mem_children.mp hm)
  · show List.filter _ ((p.tree.push data).preorder _) = _
    rw [hvalid.preorder_push]
    exact hfilter fun m => hvalid.has_of_mem_preorder hvalid.has_root

/-- A node that is in no element is given another text. -/
theorem sameElements_setData (hvalid : p.tree.Valid) {n : NodeId} {old new : NodeData}
    {text : String} (hold : p.tree.data? n = some old) (hnew : Edit.withText? text old = some new)
    (hparent : ∀ a, p.tree.parent? n = some a → a = Tree.root) :
    SameElements p { p with tree := p.tree.setData n new } := by
  have helement : ∀ m, (p.tree.setData n new).element? m = p.tree.element? m :=
    Tree.element?_setData_of_withText? hold hnew
  have hisElement : (p.tree.setData n new).isElement = p.tree.isElement := by
    funext m
    rw [Tree.isElement, helement]
    rfl
  refine ⟨hvalid, hvalid.setData hold (.of_withText? hnew), rfl, rfl, rfl, fun _ => helement _, ?_,
    fun _ => Tree.parent?_setData, fun _ => hvalid.children_setData, ?_, ?_, ?_⟩
  · intro m hm
    show (p.tree.setData n new).parent? m = none
    rw [Tree.parent?_setData, Tree.parent?_of_not_has hm]
  · intro m a ha hne
    show (p.tree.setData n new).data? m = _
    rw [Tree.data?_setData (Tree.has_of_data? hold), if_neg]
    rintro rfl
    exact hne (hparent a ha)
  · show List.filter _ ((p.tree.setData n new).children _) = _
    rw [hvalid.children_setData]
    exact congrArg (List.filter · _) hisElement
  · show List.filter _ ((p.tree.setData n new).preorder _) = _
    rw [hvalid.preorder_setData]
    exact congrArg (List.filter · _) hisElement

end Page

namespace Document

/-- All styles are stale after the change. -/
structure Loud (d d' : Document) : Prop where
  serial : d.serial < d'.serial
  styles : d'.cache.styles ⊆ d.cache.styles
  enabled : d'.cache.enabled = d.cache.enabled
  computed : d'.cache.computed = d.cache.computed

/-- No style is stale after the change, and what styles are computed from is the same. -/
structure Quiet (d d' : Document) : Prop where
  page : d.page.SameElements d'.page
  parserFlags : d'.parserFlags = d.parserFlags
  medium : d'.medium = d.medium
  registered : d'.registered = d.registered
  list : d'.sheets.list = d.sheets.list
  cascade : d'.cascade = d.cascade
  serial : d'.serial = d.serial
  styles : d'.cache.styles ⊆ d.cache.styles
  enabled : d'.cache.enabled = d.cache.enabled
  computed : d'.cache.computed = d.cache.computed
  /-- No style of an element is forgotten. -/
  lookup? : ∀ n q, d.page.isElement n = true → d'.cache.lookup? n q = d.cache.lookup? n q

variable {d d' : Document} {c : Change} {n : NodeId}

/-! ## Notifications -/

theorem loud_of_stale {s : Staleness} (h : d'.cache = d.cache.stale s) : Loud d d' := by
  constructor
  · show d.cache.serial < d'.cache.serial
    rw [h]
    cases s <;> exact Nat.lt_succ_self _
  · rw [h]
    cases s <;> exact List.Subset.refl _
  · rw [h]
    cases s <;> rfl
  · rw [h]
    cases s <;> rfl

theorem cascade_notify : (notify c d n).cascade = d.cascade := by
  obtain ⟨_, _, h⟩ := notify_frame d c n
  rw [h]

theorem cascade_notifyAll (nodes : List NodeId) : (d.notifyAll c nodes).cascade = d.cascade := by
  obtain ⟨_, _, h⟩ := notifyAll_frame d c nodes
  rw [h]

theorem cascade_attach (p n : NodeId) (before : Option NodeId) :
    (d.attach p n before).cascade = d.cascade :=
  (cascade_notifyAll _).trans (cascade_notifyAll _)

theorem cascade_detach (p n : NodeId) : (d.detach p n).cascade = d.cascade :=
  (cascade_notifyAll _).trans (cascade_notifyAll _)

theorem cascade_withUrl (url : Option Url) : (d.withUrl url).cascade = d.cascade := by
  unfold withUrl
  dsimp only
  split <;> rfl

theorem loud_notify (hn : d.page.isElement n = true) : Loud d (notify c d n) := by
  refine loud_of_stale (s := d.page.staleness n c) ?_
  unfold notify
  rw [if_pos hn]
  rfl

theorem Loud.trans {d'' : Document} (h : Loud d d') (h' : Loud d' d'') : Loud d d'' where
  serial := h.serial.trans h'.serial
  styles _ hx := h.styles (h'.styles hx)
  enabled := h'.enabled.trans h.enabled
  computed := h'.computed.trans h.computed

/-- What is done before the change does not count if it keeps the serial and no other styles. -/
theorem Loud.after {put : Document} (h : Loud put d') (hserial : put.serial = d.serial)
    (hstyles : put.cache.styles ⊆ d.cache.styles) (henabled : put.cache.enabled = d.cache.enabled)
    (hcomputed : put.cache.computed = d.cache.computed) : Loud d d' where
  serial := hserial ▸ h.serial
  styles _ hx := hstyles (h.styles hx)
  enabled := h.enabled.trans henabled
  computed := h.computed.trans hcomputed

/-- Nodes that are no elements are told nothing, and any element that is told something makes all
styles stale. -/
theorem notifyAll_cases (c : Change) (nodes : List NodeId) (d : Document) :
    ((∀ m ∈ nodes, d.page.isElement m = false) ∧ d.notifyAll c nodes = d) ∨
      Loud d (d.notifyAll c nodes) := by
  induction nodes generalizing d with
  | nil => exact .inl ⟨List.forall_mem_nil _, rfl⟩
  | cons n nodes ih =>
    show (_ ∧ (notify c d n).notifyAll c nodes = d) ∨ Loud d ((notify c d n).notifyAll c nodes)
    cases hn : d.page.isElement n with
    | false =>
      rw [notify_of_not_element hn]
      rcases ih d with ⟨hnone, hsame⟩ | hloud
      · left
        exact ⟨List.forall_mem_cons.mpr ⟨hn, hnone⟩, hsame⟩
      · exact .inr hloud
    | true =>
      right
      have hfirst : Loud d (notify c d n) := loud_notify hn
      rcases ih (notify c d n) with ⟨-, hsame⟩ | hloud
      · rw [hsame]
        exact hfirst
      · exact hfirst.trans hloud

/-- The nodes that are moved and the node that gets or loses a child are told in turn. -/
theorem notifyAll_twice_cases (c c' : Change) (nodes nodes' : List NodeId) (d : Document) :
    ((∀ m ∈ nodes ++ nodes', d.page.isElement m = false) ∧
        (d.notifyAll c nodes).notifyAll c' nodes' = d) ∨
      Loud d ((d.notifyAll c nodes).notifyAll c' nodes') := by
  rcases notifyAll_cases c nodes d with ⟨hnone, hsame⟩ | hloud
  · rw [hsame]
    rcases notifyAll_cases c' nodes' d with ⟨hnone', hsame'⟩ | hloud
    · refine .inl ⟨fun m hm => ?_, hsame'⟩
      rcases List.mem_append.mp hm with hm | hm
      · exact hnone m hm
      · exact hnone' m hm
    · exact .inr hloud
  · right
    rcases notifyAll_cases c' nodes' (d.notifyAll c nodes) with ⟨-, hsame⟩ | hloud'
    · rw [hsame]
      exact hloud
    · exact hloud.trans hloud'

/-! ## Changes of the tree -/

/-- Only the document has children and is told nothing. -/
theorem root_of_silent {q : Page} (hvalid : q.tree.Valid) {p n : NodeId}
    (hn : q.tree.parent? n = some p) (hp : q.isElement p = false) : p = Tree.root := by
  refine (Page.parent_of_isElement hvalid hn).resolve_right ?_
  rw [hp]
  exact Bool.false_ne_true

/-- A change of the page alone that no element is told of. -/
theorem quiet_withTree {t : Tree} (h : d.page.SameElements { d.page with tree := t }) :
    Quiet d (d.withTree t) :=
  ⟨h, rfl, rfl, rfl, rfl, rfl, rfl, List.Subset.refl _, rfl, rfl, fun _ _ _ => rfl⟩

theorem quiet_push (hvalid : d.page.tree.Valid) {data : NodeData} (hdata : data ≠ .document) :
    Quiet d (d.push data) :=
  quiet_withTree (Page.sameElements_push hvalid hdata)

theorem attach_cases (hvalid : d.page.tree.Valid) {p n : NodeId} {before : Option NodeId}
    {parent child : NodeData} (hcan : CanInsert d.page.tree p n before parent child)
    (hroot : d.page.tree.parent? n = none) :
    Quiet d (d.attach p n before) ∨ Loud d (d.attach p n before) := by
  have hvalid' := hvalid.link hcan hroot
  obtain ⟨xs, ys, rfl, i⟩ := hcan.insertable hvalid.toSound hroot
  have g := i.graft hvalid.toSound
  let put : Document := d.withTree (d.page.tree.link p n ys.head?)
  rcases notifyAll_twice_cases .inserted .children (put.page.tree.preorder n) [p] put with
    ⟨hnone, hsame⟩ | hloud
  · left
    show Quiet d ((put.notifyAll .inserted _).notifyAll .children _)
    rw [hsame]
    obtain ⟨hmoved, hp⟩ := List.forall_mem_append.mp hnone
    obtain rfl : p = Tree.root :=
      root_of_silent (q := put.page) hvalid' g.parent_self (hp p List.mem_cons_self)
    refine quiet_withTree ?_
    refine Page.sameElements_of_graft hvalid hvalid' g (fun _ => Tree.data?_link) ?_ rfl rfl rfl
    intro m hm
    rw [← g.preorder_self] at hm
    have hput : put.page.element? m = d.page.element? m := Tree.element?_link
    rw [← Page.isElement_congr hput]
    exact hmoved m hm
  · exact .inr (hloud.after rfl (List.Subset.refl _) rfl rfl)

theorem detach_cases (hvalid : d.page.tree.Valid) {p n : NodeId}
    (hp : d.page.tree.parent? n = some p) : Quiet d (d.detach p n) ∨ Loud d (d.detach p n) := by
  have hvalid' := hvalid.unlink hp
  obtain ⟨xs, ys, g⟩ := hvalid.graft_unlink hp
  let cut : Document := { d.withTree (d.page.tree.unlink n) with
    cache := ((d.page.tree.unlink n).preorder n).foldl StyleCache.forget d.cache }
  obtain ⟨styles, hsubset, hforget⟩ :=
    StyleCache.forget_all ((d.page.tree.unlink n).preorder n) d.cache
  obtain ⟨hserial, hstyles, henabled, hcomputed⟩ : cut.serial = d.serial ∧
      cut.cache.styles ⊆ d.cache.styles ∧ cut.cache.enabled = d.cache.enabled ∧
      cut.cache.computed = d.cache.computed := by
    simpa [cut, serial, hforget] using hsubset
  rcases notifyAll_twice_cases .removed .children (cut.page.tree.preorder n) [p] cut with
    ⟨hnone, hsame⟩ | hloud
  · left
    show Quiet d ((cut.notifyAll .removed _).notifyAll .children _)
    rw [hsame]
    obtain ⟨hmoved, hkind⟩ := List.forall_mem_append.mp hnone
    have hparent : cut.page.element? p = d.page.element? p := Tree.element?_unlink
    obtain rfl : p = Tree.root := by
      refine root_of_silent hvalid hp ?_
      rw [← Page.isElement_congr hparent]
      exact hkind p List.mem_cons_self
    have hcut : cut.page.SameElements d.page :=
      Page.sameElements_of_graft hvalid' hvalid g (fun _ => Tree.data?_unlink.symm) hmoved rfl rfl
        rfl
    refine ⟨hcut.symm fun m => ?_, rfl, rfl, rfl, rfl, rfl, hserial, hstyles, henabled, hcomputed,
      fun m q hm => StyleCache.lookup?_forget_all (fun hmem => ?_) d.cache q⟩
    · exact congrArg (fun size => decide (m < size)) g.size
    · have helement : cut.page.element? m = d.page.element? m := Tree.element?_unlink
      rw [← Page.isElement_congr helement, hmoved m hmem] at hm
      cases hm
  · exact .inr (hloud.after hserial hstyles henabled hcomputed)

theorem withText_cases (hvalid : d.page.tree.Valid) {n : NodeId} {old new : NodeData}
    {text : String} (hold : d.page.tree.data? n = some old)
    (hnew : Edit.withText? text old = some new) :
    Quiet d (d.withText n new) ∨ Loud d (d.withText n new) := by
  let put : Document := d.withTree (d.page.tree.setData n new)
  rcases notifyAll_cases .children (d.page.tree.parent? n).toList put with ⟨hnone, hsame⟩ | hloud
  · left
    show Quiet d (put.notifyAll .children _)
    rw [hsame]
    refine quiet_withTree (Page.sameElements_setData hvalid hold hnew fun a ha => ?_)
    have hput : put.page.element? a = d.page.element? a :=
      Tree.element?_setData_of_withText? hold hnew a
    refine root_of_silent hvalid ha ?_
    rw [← Page.isElement_congr hput]
    exact hnone a (by rw [ha]; exact List.mem_cons_self)
  · exact .inr (hloud.after rfl (List.Subset.refl _) rfl rfl)

/-! ## Other changes -/

theorem loud_withAttributes {n : NodeId} {e : Element} {as : List Attribute} {changed : Name}
    (he : d.page.tree.data? n = some (.element e)) : Loud d (d.withAttributes n e as changed) := by
  have hn : (d.withElement n { e with attributes := as }).page.isElement n = true := by
    show ((d.withElement n _).page.element? n).isSome = true
    rw [element?_withElement he]
    rfl
  have hloud : Loud (d.withElement n { e with attributes := as })
      (d.withAttributes n e as changed) := loud_notify hn
  exact hloud.after rfl (List.Subset.refl _) rfl rfl

theorem loud_withUrl (url : Option Url) : Loud d (d.withUrl url) := by
  unfold withUrl
  dsimp only
  split
  · exact loud_of_stale (s := .styles) rfl
  · exact loud_of_stale (s := .sheets) rfl

/-- Every step but reading is quiet or loud. -/
theorem step_cases {allowed : Cascade → Prop} (hvalid : d.page.tree.Valid) (s : Step allowed d d') :
    (Quiet d d' ∨ Loud d d') ∨ d' = d.readSheets.2 ∨ ∃ n q, d' = (d.readStyle n q).2 := by
  cases s with
  | push hdata => exact .inl (.inl (quiet_push hvalid hdata))
  | detach hp => exact .inl (detach_cases hvalid hp)
  | attach hcan hroot => exact .inl (attach_cases hvalid hcan hroot)
  | attributes he => exact .inl (.inr (loud_withAttributes he))
  | states he => exact .inl (.inr (loud_of_stale (s := .styles) rfl))
  | text hold hnew => exact .inl (withText_cases hvalid hold hnew)
  | url url => exact .inl (.inr (loud_withUrl url))
  | header | medium | register | rebuild | cascade | loader | selectSet | enableSet =>
    exact .inl (.inr (loud_of_stale (s := .sheets) rfl))
  | readSheets => exact .inr (.inl rfl)
  | readStyle n q => exact .inr (.inr ⟨n, q, rfl⟩)

end Document

end StyleTree
