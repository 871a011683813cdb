import StyleTree.Proofs.Sheets.Membership
import StyleTree.Proofs.Sheets.Same

/-!
# The list is up to date

A document keeps its list of style sheets, and what was loaded for it, until a change is made known
that concerns them. `Coherent` says that the list that is kept is the one that would be built from
nothing, and that what is kept would be loaded again. Every step keeps a document coherent: either
the list is dropped, or the page is the same for it.
-/

namespace StyleTree

open SheetStore

namespace SheetStore

variable {s s' : SheetStore} {p q : Page} {loader : Loader} {pending : List NodeId} {n : NodeId}

/-! ## What changes made known do to the store -/

theorem contents_enlist (t : Tree) (o : Option SheetOrigin) :
    (s.enlist t n o).contents = s.contents := by
  cases o with
  | none => rfl
  | some o =>
    simp only [enlist]
    split
    · rfl
    · cases o <;> rfl

theorem sameSelection_enlist (t : Tree) (o : Option SheetOrigin) :
    SameSelection s (s.enlist t n o) := by
  cases o with
  | none => exact ⟨rfl, rfl, rfl⟩
  | some o =>
    simp only [enlist]
    split
    · exact ⟨rfl, rfl, rfl⟩
    · cases o <;> exact ⟨rfl, rfl, rfl⟩

theorem mem_contents_forget {m : NodeId} {x : Option LoadedSheet} :
    (m, x) ∈ (s.forget n).contents ↔ (m, x) ∈ s.contents ∧ m ≠ n := by
  simp [forget]

end SheetStore

namespace Document

variable {d : Document} {c : Change} {n : NodeId}

/-- What a notification does, by what it makes stale and what it forgets. -/
theorem notify_cases (c : Change) (d : Document) (n : NodeId) :
    (d.page.isElement n = false ∧ notify c d n = d) ∨
    (d.page.affectsSheets n c = false ∧ notify c d n = d.stale .styles) ∨
    (d.page.affectsSheets n c = true ∧ ∃ s, notify c d n = { d with sheets := s }.stale .sheets ∧
      SameSelection d.sheets s ∧ (∀ x ∈ s.contents, x ∈ d.sheets.contents) ∧
      (d.page.kind n = .base → s.contents = []) ∧
      ∀ o : SheetOrigin, d.page.kind n = o.kind → ∀ x, (n, x) ∉ s.contents) := by
  cases hn : d.page.isElement n with
  | false => exact .inl ⟨rfl, notify_of_not_element hn⟩
  | true =>
    cases ha : d.page.affectsSheets n c with
    | false => exact .inr (.inl ⟨rfl, notify_of_not_affects hn ha⟩)
    | true =>
      refine .inr (.inr ⟨rfl, ?_⟩)
      by_cases hkind : ∀ o : SheetOrigin, d.page.kind n ≠ o.kind
      · by_cases hbase : d.page.kind n = .base
        · refine ⟨_, notify_of_base hbase ha, ⟨rfl, rfl, rfl⟩, ?_, fun _ => rfl, ?_⟩
          · exact fun x hx => absurd hx List.not_mem_nil
          · exact fun o ho => absurd ho (hkind o)
        · refine ⟨_, notify_of_other hn ha hkind hbase, ⟨rfl, rfl, rfl⟩, fun _ hx => hx, ?_, ?_⟩
          · exact fun h => absurd h hbase
          · exact fun o ho => absurd ho (hkind o)
      · obtain ⟨o, ho⟩ := not_forall_not.mp hkind
        refine ⟨_, notify_of_kind ho ha, ?_, ?_, ?_, ?_⟩
        · have hforget : SameSelection d.sheets (d.sheets.forget n) := ⟨rfl, rfl, rfl⟩
          exact hforget.trans (sameSelection_enlist _ _)
        · intro x hx
          rw [contents_enlist] at hx
          exact (mem_contents_forget.mp hx).1
        · intro hbase
          rw [ho] at hbase
          cases o <;> cases hbase
        · intro _ _ x hx
          rw [contents_enlist] at hx
          exact (mem_contents_forget.mp hx).2 rfl

theorem loader_notify : (notify c d n).loader = d.loader := by
  obtain ⟨_, _, h⟩ := notify_frame d c n
  rw [h]

theorem loader_notifyAll (nodes : List NodeId) : (d.notifyAll c nodes).loader = d.loader := by
  obtain ⟨_, _, h⟩ := notifyAll_frame d c nodes
  rw [h]

theorem sameSelection_notify : SameSelection d.sheets (notify c d n).sheets := by
  rcases notify_cases c d n with ⟨-, h⟩ | ⟨-, h⟩ | ⟨-, s, h, hs, -⟩
  · rw [h]
    exact ⟨rfl, rfl, rfl⟩
  · rw [h]
    exact ⟨rfl, rfl, rfl⟩
  · rw [h]
    exact hs

theorem sameSelection_notifyAll (nodes : List NodeId) :
    SameSelection d.sheets (d.notifyAll c nodes).sheets := by
  unfold notifyAll
  induction nodes generalizing d with
  | nil => exact ⟨rfl, rfl, rfl⟩
  | cons n nodes ih => exact sameSelection_notify.trans ih

/-- A list that is still there was there, and the change does not concern it. -/
theorem list_notify {list : SheetList} (h : (notify c d n).sheets.list = some list) :
    d.sheets.list = some list ∧ (d.page.isElement n = true → d.page.affectsSheets n c = false) := by
  rcases notify_cases c d n with ⟨hn, he⟩ | ⟨ha, he⟩ | ⟨-, s, he, -⟩ <;> rw [he] at h
  · exact ⟨h, fun hn' => absurd hn' (by simp [hn])⟩
  · exact ⟨h, fun _ => ha⟩
  · cases h

theorem list_notifyAll {nodes : List NodeId} {list : SheetList}
    (h : (d.notifyAll c nodes).sheets.list = some list) :
    d.sheets.list = some list ∧
      ∀ n ∈ nodes, d.page.isElement n = true → d.page.affectsSheets n c = false := by
  unfold notifyAll at h
  induction nodes generalizing d with
  | nil => exact ⟨h, fun _ hn => absurd hn List.not_mem_nil⟩
  | cons n nodes ih =>
    obtain ⟨hrest, hnodes⟩ := ih h
    obtain ⟨hlist, hn⟩ := list_notify hrest
    refine ⟨hlist, fun m hm => ?_⟩
    rcases List.mem_cons.mp hm with rfl | hm
    · exact hn
    · have := hnodes m hm
      rwa [page_notify] at this

end Document

namespace SheetStore.Kept

variable {s s' : SheetStore} {p q : Page} {loader : Loader} {pending : List NodeId} {n : NodeId}
  {d : Document} {c : Change}

/-! ## What is kept after a change -/

theorem mono (h : Kept s p loader pending) (hs : ∀ x ∈ s'.contents, x ∈ s.contents) :
    Kept s' p loader pending where
  kind n x hx := h.kind n x (hs _ hx)
  right hbase n x hx := h.right hbase n x (hs _ hx)

/-- A notification forgets, if anything. -/
theorem notify (h : Kept d.sheets p loader pending) :
    Kept (Document.notify c d n).sheets p loader pending := by
  refine h.mono fun x hx => ?_
  rcases Document.notify_cases c d n with ⟨-, he⟩ | ⟨-, he⟩ | ⟨-, s, he, -, hs, -⟩ <;> rw [he] at hx
  · exact hx
  · exact hx
  · exact hs x hx

/-- A notification of an element that matters settles it. -/
theorem notify_settles (h : Kept d.sheets d.page loader (n :: pending))
    (hc : (∃ o : SheetOrigin, d.page.kind n = o.kind) ∨ d.page.kind n = .base →
      d.page.affectsSheets n c = true) :
    Kept (Document.notify c d n).sheets d.page loader pending := by
  refine ⟨(h.notify (c := c) (n := n)).kind, fun hbase m x hx hm => ?_⟩
  have hold := (h.notify (c := c) (n := n)).right
  by_cases hn : d.page.kind n = .base
  · -- With a base element everything is forgotten.
    exfalso
    rcases Document.notify_cases c d n with ⟨helement, -⟩ | ⟨ha, -⟩ | ⟨-, s, he, -, -, hs, -⟩
    · have := Page.isElement_of_kind (p := d.page) (n := n) (by simp [hn])
      simp [helement] at this
    · simp [hc (.inr hn)] at ha
    · rw [he] at hx
      change (m, x) ∈ s.contents at hx
      simp [hs hn] at hx
  · refine hold ?_ m x hx ?_
    · intro b hb
      rcases List.mem_cons.mp hb with rfl | hb
      · exact hn
      · exact hbase b hb
    · rintro hmem
      rcases List.mem_cons.mp hmem with rfl | hmem
      · -- Nothing is kept of the element itself.
        obtain ⟨o, ho⟩ := (h.notify (c := c) (n := m)).kind m x hx
        rcases Document.notify_cases c d m with ⟨helement, -⟩ | ⟨ha, -⟩ | ⟨-, s, he, -, -, -, hs⟩
        · have := Page.isElement_of_kind_eq ho
          simp [helement] at this
        · simp [hc (.inl ⟨o, ho⟩)] at ha
        · rw [he] at hx
          exact hs o ho x hx
      · exact hm hmem

/-- Moves settle all elements that were moved. -/
theorem notifyAll {nodes : List NodeId} (hc : c.isMove = true) (hpage : d.page = p)
    (h : Kept d.sheets p loader (nodes ++ pending)) :
    Kept (d.notifyAll c nodes).sheets p loader pending := by
  induction nodes generalizing d with
  | nil => exact h
  | cons n nodes ih =>
    subst hpage
    refine ih (Document.page_notify d c n) (h.notify_settles ?_)
    rintro (⟨o, ho⟩ | hbase)
    · exact Page.affectsSheets_of_isMove hc ho
    · simp [Page.affectsSheets, hbase, hc]

/-- A change of the children settles a style element; others it does not concern. -/
theorem notifyAll_children {parent : Option NodeId} (hpage : d.page = p)
    (h : Kept d.sheets p loader (parent.toList.filter (p.kind · = .style))) :
    Kept (d.notifyAll .children parent.toList).sheets p loader [] := by
  subst hpage
  cases parent with
  | none => exact h
  | some m =>
    show Kept (Document.notify .children d m).sheets _ _ _
    by_cases hk : d.page.kind m = .style
    · refine SheetStore.Kept.notify_settles ?_ fun _ => ?_
      · simpa [hk] using h
      · simp [Page.affectsSheets, hk]
    · refine SheetStore.Kept.notify ?_
      simpa [hk] using h

/-- On a page where the elements that are not pending are the same, the same is kept. -/
theorem transport (h : Kept s p loader [])
    (hkind : ∀ m, p.kind m ≠ .other → q.kind m = p.kind m)
    (horigin : ∀ m, p.kind m ≠ .other → m ∉ pending → q.sheetOrigin? m = p.sheetOrigin? m)
    (hhref : ∀ m, p.kind m = .link → m ∉ pending → q.attr? m "href" = p.attr? m "href")
    (htext : ∀ m, p.kind m = .style → m ∉ pending → q.tree.childText m = p.tree.childText m)
    (hbase : (∀ b ∈ pending, q.kind b ≠ .base) → q.baseHref? = p.baseHref?)
    (hurl : q.url.map Url.withoutFragment = p.url.map Url.withoutFragment) :
    Kept s q loader pending where
  kind m x hx := by
    obtain ⟨o, ho⟩ := h.kind m x hx
    refine ⟨o, ?_⟩
    rw [hkind m (ho ▸ o.kind_ne_other), ho]
  right hpending m x hx hm := by
    -- A sheet outside the pending ones is loaded from the same text or address.
    obtain ⟨o, ho, hload⟩ := h.right (fun _ hb => absurd hb List.not_mem_nil) m x hx
      List.not_mem_nil
    have hk := Page.kind_of_sheetOrigin? ho
    refine ⟨o, ?_, ?_⟩
    · rw [horigin m (hk ▸ o.kind_ne_other) hm, ho]
    · rw [hload]
      refine (load_congr ?_ ?_ (Page.baseUrl_congr (hbase hpending) hurl)).symm
      · rintro rfl
        exact hhref m hk hm
      · rintro rfl
        exact htext m hk hm

end SheetStore.Kept

/-! ## Coherent documents -/

namespace Document

/-- The list that is kept is the one that would be built from nothing. -/
structure Coherent (d : Document) : Prop where
  kept : Kept d.sheets d.page d.loader []
  list : ∀ l, d.sheets.list = some l → l.shown = d.rebuiltList.shown

variable {d d' : Document}

/-- A list that is still there was there, and nothing changed for it. -/
theorem Coherent.step (h : d.Coherent) (hkept : Kept d'.sheets d'.page d'.loader [])
    (hlist : ∀ l, d'.sheets.list = some l → d.sheets.list = some l ∧
      SameSelection d.sheets d'.sheets ∧ d'.loader = d.loader ∧ SameSheets d.page d'.page) :
    d'.Coherent where
  kept := hkept
  list l hl := by
    obtain ⟨hold, hselection, hloader, hpage⟩ := hlist l hl
    rw [h.list l hold, rebuiltList_congr hselection hloader hpage]

/-- A change that drops the list, but leaves the page and what is kept. -/
theorem Coherent.dropped (h : d.Coherent) (hpage : d'.page = d.page)
    (hloader : d'.loader = d.loader) (hcontents : d'.sheets.contents = d.sheets.contents)
    (hlist : d'.sheets.list = none) : d'.Coherent where
  kept := by
    rw [hpage, hloader]
    exact h.kept.mono fun x hx => hcontents ▸ hx
  list l hl := by
    rw [hlist] at hl
    cases hl

/-- A change after which nothing is kept. -/
theorem coherent_of_forgotten (hcontents : d'.sheets.contents = [])
    (hlist : d'.sheets.list = none) : d'.Coherent where
  kept := kept_of_contents_nil hcontents []
  list l hl := by
    rw [hlist] at hl
    cases hl

end Document

/-! ## Nodes that are moved -/

/-- The pages differ in where the nodes `moved` stand, and in the text of `parent`. -/
structure Page.SameBeside (p q : Page) (parent : Option NodeId) (moved : List NodeId) : Prop where
  element : ∀ m, q.element? m = p.element? m
  origin : ∀ m, m ∉ moved → q.sheetOrigin? m = p.sheetOrigin? m
  text : ∀ m, parent ≠ some m → q.tree.childText m = p.tree.childText m
  list : ∀ relevant : NodeId → Bool, (∀ m ∈ moved, relevant m = false) →
    (q.tree.preorder Tree.root).filter relevant = (p.tree.preorder Tree.root).filter relevant
  url : q.url = p.url

namespace Page.SameBeside

variable {p q : Page} {parent : Option NodeId} {moved : List NodeId} {s : SheetStore}
  {loader : Loader}

theorem symm (h : SameBeside p q parent moved) : SameBeside q p parent moved where
  element m := (h.element m).symm
  origin m hm := (h.origin m hm).symm
  text m hm := (h.text m hm).symm
  list relevant hr := (h.list relevant hr).symm
  url := h.url.symm

theorem kind (h : SameBeside p q parent moved) (m : NodeId) : q.kind m = p.kind m :=
  kind_congr (h.element m)

theorem attr? (h : SameBeside p q parent moved) (m : NodeId) (name : String) :
    q.attr? m name = p.attr? m name := by
  simp [Page.attr?, h.element]

theorem affectsSheets (h : SameBeside p q parent moved) (m : NodeId) (c : Change) :
    q.affectsSheets m c = p.affectsSheets m c := by
  simp [Page.affectsSheets, h.kind, isDefaultStyle, h.attr?]

/-- The base elements are the same unless some were moved. -/
theorem baseHref? (h : SameBeside p q parent moved) (hmoved : ∀ m ∈ moved, q.kind m ≠ .base) :
    q.baseHref? = p.baseHref? := by
  refine baseHref?_congr (h.list (fun m => decide (m ∉ moved)) (by simp)) ?_ ?_
  · intro m hm
    have hk := hmoved m (by simpa using hm)
    have hk' := hk
    rw [h.kind] at hk'
    simp [ownBaseHref?, hk, hk']
  · intro m _ _
    simp [ownBaseHref?, h.kind, h.attr?]

theorem kept (h : SameBeside p q parent moved) (hs : Kept s p loader []) :
    Kept s q loader (moved ++ parent.toList.filter (q.kind · = .style)) := by
  refine hs.transport (fun m _ => h.kind m) ?_ (fun m _ _ => h.attr? m _) ?_ ?_ (by rw [h.url])
  · intro m _ hm
    exact h.origin m fun hmem => hm (List.mem_append_left _ hmem)
  · intro m hk hm
    refine h.text m ?_
    rintro rfl
    refine hm (List.mem_append_right _ ?_)
    simp [h.kind, hk]
  · intro hbase
    exact h.baseHref? fun m hm => hbase m (List.mem_append_left _ hm)

/-- An element whose move does not matter is blank. -/
theorem blank_of_not_affects {m : NodeId} {c : Change} (hc : c.isMove = true)
    (hm : p.isElement m = true → p.affectsSheets m c = false) : p.Blank m := by
  have hnone : ∀ k : ElementKind, p.kind m = k → k ≠ .other → p.affectsSheets m c = false := by
    intro k hk hne
    exact hm (isElement_of_kind (hk ▸ hne))
  constructor
  case origin =>
    rw [Option.eq_none_iff_forall_ne_some]
    intro o ho
    have hk := kind_of_sheetOrigin? ho
    have := hnone _ hk o.kind_ne_other
    rw [affectsSheets_of_isMove hc hk] at this
    cases this
  case base =>
    by_cases hk : p.kind m = .base
    · have := hnone _ hk (by decide)
      simp [Page.affectsSheets, hk, hc] at this
    · simp [ownBaseHref?, hk]
  case named =>
    by_cases hd : p.isDefaultStyle m = true
    · have hk : p.kind m = .metadata := by
        simp only [isDefaultStyle, Bool.and_eq_true, decide_eq_true_eq] at hd
        exact hd.1
      have := hnone _ hk (by decide)
      simp [Page.affectsSheets, hk, hc, hd] at this
    · simp [namedSet?, hd]

theorem sameSheets (h : SameBeside p q parent moved) (hblank : ∀ m ∈ moved, p.Blank m ∧ q.Blank m)
    (hparent : ∀ m, parent = some m → p.kind m ≠ .style) : SameSheets p q := by
  refine .of_nodes (fun m => decide (m ∉ moved)) (h.list _ (by simp)) ?_ ?_
    (fun _ m _ name _ => h.attr? m name) ?_ (by rw [h.url])
  · intro m hm
    exact hblank m (by simpa using hm)
  · intro m _ hm
    refine ⟨h.origin m (by simpa using hm), ?_, ?_⟩
    · simp [ownBaseHref?, h.kind, h.attr?]
    · simp [namedSet?, isDefaultStyle, h.kind, h.attr?]
  · intro m hm
    refine h.text m fun he => hparent m he ?_
    exact kind_of_sheetOrigin? (mem_definersOf.mp hm).2

end Page.SameBeside

namespace Document

variable {d d' : Document}

/-- Nodes were moved, or the text of `parent` was changed, which was made known of each of them and
of the parent. -/
inductive Moves (d : Document) : Document → Prop where
  | intro {put : Document} {c : Change} {parent : Option NodeId} {moved : List NodeId}
    (hc : c.isMove = true) (hsheets : put.sheets = d.sheets) (hloader : put.loader = d.loader)
    (hbeside : d.page.SameBeside put.page parent moved) :
    Moves d ((put.notifyAll c moved).notifyAll .children parent.toList)

theorem Coherent.moved (h : d.Coherent) (hmoves : d.Moves d') : d'.Coherent := by
  obtain @⟨put, c, parent, moved, hc, hsheets, hloader, hbeside⟩ := hmoves
  have hput : Kept put.sheets put.page put.loader
      (moved ++ parent.toList.filter (put.page.kind · = .style)) := by
    rw [hsheets, hloader]
    exact hbeside.kept h.kept
  refine h.step ?_ ?_
  · rw [page_notifyAll, page_notifyAll, loader_notifyAll, loader_notifyAll]
    exact (hput.notifyAll hc rfl).notifyAll_children (page_notifyAll put c moved)
  · intro l hl
    obtain ⟨hl, hchildren⟩ := list_notifyAll hl
    obtain ⟨hl, hmoved⟩ := list_notifyAll hl
    rw [page_notifyAll] at hchildren
    refine ⟨hsheets ▸ hl, ?_, ?_, ?_⟩
    · rw [← hsheets]
      exact (sameSelection_notifyAll moved).trans (sameSelection_notifyAll _)
    · rw [loader_notifyAll, loader_notifyAll, hloader]
    · rw [page_notifyAll, page_notifyAll]
      refine hbeside.sameSheets (fun m hm => ?_) fun m hm hk => ?_
      · have hq := hmoved m hm
        refine ⟨Page.SameBeside.blank_of_not_affects hc ?_,
          Page.SameBeside.blank_of_not_affects hc hq⟩
        intro helement
        rw [← hbeside.affectsSheets]
        refine hq ?_
        rwa [Page.isElement_congr (hbeside.element m)]
      · have hk' := (hbeside.kind m).trans hk
        have := hchildren m (by simp [hm]) (Page.isElement_of_kind (by simp [hk']))
        simp [Page.affectsSheets, hk'] at this

end Document

end StyleTree
