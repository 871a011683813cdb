import StyleTree.Proofs.Sheets.Definers

/-!
# Which elements the lists hold

Every step leaves the lists of elements that define style sheets as they should be: they hold those
elements of the document that define one, in tree order.
-/

namespace StyleTree

/-! ## Elements after a step -/

namespace Element

/-- An attribute of another name has the same value. -/
theorem SameBut.attr? {changed : Name} {e : Element} {as : List Attribute} {name : String}
    (h : SameBut changed as e.attributes) (hne : changed.isPlain name = false) :
    ({ e with attributes := as }).attr? name = e.attr? name := by
  have hne : ¬(changed.ns = Namespace.none ∧ changed.localName = name) := by
    simpa [Name.isPlain] using hne
  simp only [Element.attr?, attrIn?]
  rw [h _ _ hne]

end Element

/-! ## Steps -/

namespace Document

variable {d d' : Document}

/-- The lists of the document hold the elements that define a sheet. -/
def Enlisted (d : Document) : Prop :=
  Enlists d.sheets d.page (d.page.tree.preorder Tree.root) []

theorem placed (h : d.page.tree.Valid) (n : NodeId) :
    Enlists.Placed d.page (d.page.tree.preorder Tree.root) n := by
  intro hn
  obtain ⟨o, ho⟩ := Option.ne_none_iff_exists'.mp hn
  exact ⟨h.isConnected_iff.mp (Page.isConnected_of_sheetOrigin? ho), h.pairwise_compare⟩

/-- Only the page and the lists count. -/
theorem Enlisted.congr (h : d.Enlisted) (hpage : d'.page = d.page)
    (hs : ∀ o, d'.sheets.definers o = d.sheets.definers o) : d'.Enlisted := by
  unfold Enlisted
  rw [hpage]
  exact Enlists.congr h hs

theorem definers_readSheets (o : SheetOrigin) :
    d.readSheets.2.sheets.definers o = d.sheets.definers o := by
  unfold readSheets
  split
  · rfl
  · rw [← SheetStore.definers_build d.sheets o d.page d.loader]
    cases o <;> rfl

theorem Reads.definers (h : Reads d d') (o : SheetOrigin) :
    d'.sheets.definers o = d.sheets.definers o := by
  cases h with
  | styles => rfl
  | list => exact definers_readSheets o

/-- A tree with the same elements in the same places, but for those of `pending`. -/
theorem Enlisted.withTree (h : d.Enlisted) (hvalid : d.page.tree.Valid) {u : Tree} (hu : u.Valid)
    {order pending : List NodeId} (horder : (d.page.tree.preorder Tree.root).Sublist order)
    (hkind : ∀ m, d.page.kind m ≠ .other → (d.withTree u).page.kind m = d.page.kind m)
    (helement : ∀ m, m ∉ pending → u.element? m = d.page.tree.element? m)
    (hmem : ∀ m, m ∉ pending → (m ∈ u.preorder Tree.root ↔ m ∈ d.page.tree.preorder Tree.root)) :
    Enlists d.sheets (d.withTree u).page order pending :=
  h.transport horder hkind fun m hm =>
    Page.sheetOrigin?_of_element? (helement m hm) (hvalid.isConnected_congr hu (hmem m hm))

theorem enlisted_push (hvalid : d.page.tree.Valid) (h : d.Enlisted) {data : NodeData}
    (hdata : data ≠ .document) : (d.push data).Enlisted := by
  have hvalid' := hvalid.push hdata
  have hfresh : d.page.tree.element? d.page.tree.fresh = none := by
    simp [Tree.element?, Tree.data?, Tree.get?_fresh]
  have helement : ∀ m, m ≠ d.page.tree.fresh →
      (d.page.tree.push data).element? m = d.page.tree.element? m := by
    intro m hm
    rw [Tree.element?_push, if_neg hm]
  have hpending : Enlists d.sheets (d.push data).page (d.page.tree.preorder Tree.root)
      [d.page.tree.fresh] := by
    refine h.withTree hvalid hvalid' (List.Sublist.refl _) ?_ ?_ ?_
    · intro m hm
      refine Page.kind_congr (helement m ?_)
      rintro rfl
      exact hm (by simp [Page.kind, Page.element?, hfresh])
    · exact fun m hm => helement m (by simpa using hm)
    · intro m _
      rw [hvalid.preorder_push]
  unfold Enlisted
  rw [tree_push, hvalid.preorder_push]
  -- The new node is in no list, and not in the document.
  refine hpending.drop fun o => ?_
  constructor
  · intro hm
    have hk := h.kind o _ hm
    rw [Page.kind, Page.element?, hfresh] at hk
    cases o <;> cases hk
  · intro ho
    have hconn := Page.isConnected_of_sheetOrigin? ho
    rw [tree_push, hvalid'.isConnected_iff, hvalid.preorder_push] at hconn
    have := hvalid.has_of_mem_preorder hvalid.has_root hconn
    simp [Tree.not_has_fresh] at this

theorem enlisted_detach (hvalid : d.page.tree.Valid) (h : d.Enlisted) {p n : NodeId}
    (hp : d.page.tree.parent? n = some p) : (d.detach p n).Enlisted := by
  have hvalid' := hvalid.unlink hp
  obtain ⟨xs, ys, g⟩ := hvalid.graft_unlink hp
  have hne : n ≠ Tree.root := by
    rintro rfl
    simp [hvalid.parent_root] at hp
  -- What was taken out is still in the lists at first.
  have hpending : Enlists d.sheets (d.withTree (d.page.tree.unlink n)).page
      (d.page.tree.preorder Tree.root) ((d.page.tree.unlink n).preorder n) :=
    h.withTree hvalid hvalid' (List.Sublist.refl _)
      (fun _ _ => Page.kind_congr Tree.element?_unlink) (fun _ _ => Tree.element?_unlink)
      fun _ hm => (g.mem_preorder_of_not_mem hm).symm
  have hout : ∀ m ∈ (d.page.tree.unlink n).preorder n,
      (d.withTree (d.page.tree.unlink n)).page.sheetOrigin? m = none := by
    intro m hm
    rw [Option.eq_none_iff_forall_ne_some]
    intro o ho
    have hconnected := Page.isConnected_of_sheetOrigin? ho
    rw [tree_withTree, hvalid'.isConnected_iff] at hconnected
    exact g.not_mem_root hvalid'.parent_root hne hm hconnected
  let cut : Document := { d.withTree (d.page.tree.unlink n) with
    cache := ((d.page.tree.unlink n).preorder n).foldl StyleCache.forget d.cache }
  have hremoved := Enlists.notifyAll (d := cut) (c := .removed) rfl rfl hpending
    fun m hm hne => absurd (hout m hm) hne
  have hsettled : Enlists (cut.notifyAll .removed ((d.page.tree.unlink n).preorder n)).sheets
      cut.page ((d.page.tree.unlink n).preorder Tree.root) [] := by
    refine ⟨fun o => g.sublist_preorder (hremoved.sublist o) ?_, hremoved.kind, hremoved.mem⟩
    intro m hm hmn
    have := (hremoved.mem o m List.not_mem_nil).mp hm
    rw [hout m hmn] at this
    cases this
  have hpage : (d.detach p n).page = cut.page := by simp [detach, cut]
  unfold Enlisted
  rw [hpage]
  exact hsettled.notifyAll_settled (page_notifyAll cut .removed _)
    fun m _ => placed (d := cut) hvalid' m

theorem enlisted_attach (hvalid : d.page.tree.Valid) (h : d.Enlisted) {p n : NodeId}
    {before : Option NodeId} {parent child : NodeData}
    (hcan : CanInsert d.page.tree p n before parent child)
    (hroot : d.page.tree.parent? n = none) : (d.attach p n before).Enlisted := by
  have hvalid' := hvalid.link hcan hroot
  obtain ⟨xs, ys, rfl, i⟩ := hcan.insertable hvalid.toSound hroot
  have g := i.graft hvalid.toSound
  let put : Document := d.withTree (d.page.tree.link p n ys.head?)
  have hpending : Enlists d.sheets put.page (put.page.tree.preorder Tree.root)
      (put.page.tree.preorder n) :=
    h.withTree hvalid hvalid' (g.preorder_sublist Tree.root)
      (fun _ _ => Page.kind_congr Tree.element?_link) (fun _ _ => Tree.element?_link)
      fun m hm => g.mem_preorder_of_not_mem (g.preorder_self ▸ hm)
  have hinserted := Enlists.notifyAll (d := put) (c := .inserted) rfl rfl hpending
    fun m _ => placed (d := put) hvalid' m
  have hpage : (d.attach p n ys.head?).page = put.page := by simp [attach, put]
  unfold Enlisted
  rw [hpage]
  exact hinserted.notifyAll_settled (page_notifyAll put .inserted _)
    fun m _ => placed (d := put) hvalid' m

/-- Other data at one node leaves the other elements, and all places, as they are. -/
theorem Enlisted.setData (h : d.Enlisted) (hvalid : d.page.tree.Valid) {n : NodeId}
    {old new : NodeData} (hold : d.page.tree.data? n = some old) (hsort : Edit.SameSort old new)
    (hkind : (d.withTree (d.page.tree.setData n new)).page.kind n = d.page.kind n) :
    Enlists d.sheets (d.withTree (d.page.tree.setData n new)).page
      (d.page.tree.preorder Tree.root) [n] := by
  have hn := Tree.has_of_data? hold
  have hother : ∀ m, m ≠ n → (d.page.tree.setData n new).element? m = d.page.tree.element? m := by
    intro m hm
    rw [Tree.element?_setData hn, if_neg (Ne.symm hm)]
  refine h.withTree hvalid (hvalid.setData hold hsort) (List.Sublist.refl _) ?_ ?_ ?_
  · intro m _
    by_cases hm : m = n
    · subst m
      exact hkind
    · exact Page.kind_congr (hother m hm)
  · intro m hm
    exact hother m (by simpa using hm)
  · intro m _
    rw [hvalid.preorder_setData]

/-- The element at a node that was given other data. -/
theorem element?_withElement {n : NodeId} {e new : Element}
    (he : d.page.tree.data? n = some (.element e)) :
    (d.withElement n new).page.element? n = some new := by
  show (d.page.tree.setData n (.element new)).element? n = _
  rw [Tree.element?_setData (Tree.has_of_data? he), if_pos rfl]
  rfl

theorem kind_withElement {n : NodeId} {e new : Element}
    (he : d.page.tree.data? n = some (.element e)) (hname : new.name = e.name) :
    (d.withElement n new).page.kind n = d.page.kind n := by
  have hold : d.page.element? n = some e := Tree.element?_of_data? he
  simp [Page.kind, element?_withElement he, hold, Element.kind, hname]

theorem isConnected_withElement (hvalid : d.page.tree.Valid) {n m : NodeId} {e new : Element}
    (he : d.page.tree.data? n = some (.element e)) :
    (d.withElement n new).page.tree.isConnected m = d.page.tree.isConnected m :=
  hvalid.isConnected_congr (hvalid.setData he (.element e new)) (by rw [hvalid.preorder_setData])

theorem attr?_withElement {n : NodeId} {e : Element} {as : List Attribute} {changed : Name}
    (he : d.page.tree.data? n = some (.element e))
    (hsame : Element.SameBut changed as e.attributes) {name : String}
    (hne : changed.isPlain name = false) :
    (d.withElement n { e with attributes := as }).page.attr? n name = d.page.attr? n name := by
  have hold : d.page.element? n = some e := Tree.element?_of_data? he
  simp only [Page.attr?, element?_withElement he, hold, Option.bind_some]
  exact hsame.attr? hne

/-- An attribute that does not matter leaves what the element defines, and what decides its
entry. -/
theorem same_of_not_affects (hvalid : d.page.tree.Valid) {n : NodeId} {e : Element}
    {as : List Attribute} {changed : Name} (he : d.page.tree.data? n = some (.element e))
    (hsame : Element.SameBut changed as e.attributes)
    (haffects : (d.withElement n { e with attributes := as }).page.affectsSheets n
      (.ofAttribute changed) = false) :
    (d.withElement n { e with attributes := as }).page.sheetOrigin? n = d.page.sheetOrigin? n ∧
      ∀ o : SheetOrigin, d.page.kind n = o.kind → ∀ name ∈ o.attributes,
        (d.withElement n { e with attributes := as }).page.attr? n name = d.page.attr? n name := by
  have hkind : (d.withElement n { e with attributes := as }).page.kind n = d.page.kind n :=
    kind_withElement he rfl
  have hattr : ∀ name, changed.isPlain name = false →
      (d.withElement n { e with attributes := as }).page.attr? n name = d.page.attr? n name :=
    fun _ hne => attr?_withElement he hsame hne
  constructor
  · refine Page.sheetOrigin?_congr hkind (isConnected_withElement hvalid he) ?_ ?_
    · intro hk
      have hplain := Page.isPlain_of_link (hkind.trans hk) haffects
      exact ⟨hattr _ (hplain _ (by simp)), hattr _ (hplain _ (by simp))⟩
    · rintro (hk | hk)
      · exact hattr _ (Page.isPlain_of_link (hkind.trans hk) haffects _ (by simp))
      · exact hattr _ (Page.isPlain_of_style (hkind.trans hk) haffects _ (by simp))
  · intro o hk name hname
    refine hattr name ?_
    cases o with
    | linked =>
      refine Page.isPlain_of_link (hkind.trans hk) haffects name ?_
      exact (show SheetOrigin.linked.attributes ⊆ _ by decide) hname
    | embedded =>
      refine Page.isPlain_of_style (hkind.trans hk) haffects name ?_
      exact (show SheetOrigin.embedded.attributes ⊆ _ by decide) hname

theorem enlisted_withAttributes (hvalid : d.page.tree.Valid) (h : d.Enlisted) {n : NodeId}
    {e : Element} {as : List Attribute} {changed : Name}
    (he : d.page.tree.data? n = some (.element e))
    (hsame : Element.SameBut changed as e.attributes) :
    (d.withAttributes n e as changed).Enlisted := by
  have hkind : (d.withElement n { e with attributes := as }).page.kind n = d.page.kind n :=
    kind_withElement he rfl
  have hpending := h.setData hvalid he (.element e { e with attributes := as }) hkind
  have hvalid' := hvalid.setData he (.element e { e with attributes := as })
  unfold Enlisted withAttributes
  rw [page_notify]
  show Enlists _ _ ((d.page.tree.setData n _).preorder Tree.root) []
  rw [hvalid.preorder_setData]
  refine Enlists.notify hpending ?_ ?_
  · have := placed (d := d.withElement n { e with attributes := as }) hvalid' n
    change Enlists.Placed _ ((d.page.tree.setData n _).preorder Tree.root) n at this
    rwa [hvalid.preorder_setData] at this
  · intro haffects o
    rw [(same_of_not_affects hvalid he hsame haffects).1]
    exact h.mem o n List.not_mem_nil

theorem enlisted_withStates (hvalid : d.page.tree.Valid) (h : d.Enlisted) {n : NodeId}
    {e new : Element} (he : d.page.tree.data? n = some (.element e)) (hname : new.name = e.name)
    (hattributes : new.attributes = e.attributes) : (d.withStates n new).Enlisted := by
  have hkind : (d.withElement n new).page.kind n = d.page.kind n := kind_withElement he hname
  have hpending := h.setData hvalid he (.element e new) hkind
  have hold : d.page.element? n = some e := Tree.element?_of_data? he
  have hattr : ∀ name, (d.withElement n new).page.attr? n name = d.page.attr? n name := by
    intro name
    simp [Page.attr?, element?_withElement he, hold, Element.attr?, Element.attrIn?, hattributes]
  have hdefines : (d.withElement n new).page.sheetOrigin? n = d.page.sheetOrigin? n :=
    Page.sheetOrigin?_congr hkind (isConnected_withElement hvalid he)
      (fun _ => ⟨hattr _, hattr _⟩) fun _ => hattr _
  show Enlists _ _ ((d.page.tree.setData n _).preorder Tree.root) []
  rw [hvalid.preorder_setData]
  exact hpending.drop fun o => hdefines ▸ h.mem o n List.not_mem_nil

theorem enlisted_withText (hvalid : d.page.tree.Valid) (h : d.Enlisted) {n : NodeId}
    {old new : NodeData} {text : String} (hold : d.page.tree.data? n = some old)
    (hnew : Edit.withText? text old = some new) : (d.withText n new).Enlisted := by
  have hvalid' := hvalid.setData hold (.of_withText? hnew)
  have helement := Tree.element?_setData_of_withText? hold hnew
  let put : Document := d.withTree (d.page.tree.setData n new)
  have hsettled : Enlists put.sheets put.page (put.page.tree.preorder Tree.root) [] := by
    show Enlists _ _ ((d.page.tree.setData n new).preorder Tree.root) []
    rw [hvalid.preorder_setData]
    refine h.withTree hvalid hvalid' (List.Sublist.refl _)
      (fun m _ => Page.kind_congr (helement m)) (fun m _ => helement m) ?_
    intro m _
    rw [hvalid.preorder_setData]
  have hpage : (d.withText n new).page = put.page := by simp [withText, put]
  unfold Enlisted
  rw [hpage]
  exact hsettled.notifyAll_settled rfl fun m _ => placed (d := put) hvalid' m

/-- Every step leaves the lists as they should be. -/
theorem step_enlisted {allowed : Cascade → Prop} (hvalid : d.page.tree.Valid) (h : d.Enlisted)
    (s : Step allowed d d') : d'.Enlisted := by
  cases s with
  | push hdata => exact enlisted_push hvalid h hdata
  | detach hp => exact enlisted_detach hvalid h hp
  | attach hcan hroot => exact enlisted_attach hvalid h hcan hroot
  | attributes he hsame => exact enlisted_withAttributes hvalid h he hsame
  | states he hname hattributes => exact enlisted_withStates hvalid h he hname hattributes
  | text hold hnew => exact enlisted_withText hvalid h hold hnew
  | url url =>
    -- The URL does not decide who defines a sheet.
    have hmoved : Enlists d.sheets { d.page with url } (d.page.tree.preorder Tree.root) [] :=
      h.transport (List.Sublist.refl _) (fun _ _ => rfl) fun _ _ => rfl
    unfold withUrl
    split
    · exact hmoved
    · exact hmoved.congr fun o => by cases o <;> rfl
  | selectSet | loader | header | medium | register | rebuild | cascade =>
    exact h.congr rfl fun o => by cases o <;> rfl
  | enableSet name =>
    refine h.congr rfl fun o => ?_
    show (SheetStore.dropList (d.sheets.enable name)).definers o = _
    rw [SheetStore.definers_dropList]
    unfold SheetStore.enable
    split <;> cases o <;> rfl
  | readSheets => exact h.congr (page_readSheets d) fun o => definers_readSheets o
  | readStyle n q =>
    have hreads := Reads.readStyle (d := d) n q
    exact h.congr hreads.page fun o => hreads.definers o

theorem create_enlisted (doctype : Option String) (o : Options) :
    (create doctype o).Enlisted := by
  refine ⟨fun origin => ?_, fun origin n hn => ?_, fun origin n _ => ?_⟩
  · cases origin <;> exact List.nil_sublist _
  · cases origin <;> cases hn
  · have hlist : n ∉ (create doctype o).sheets.definers origin := by
      cases origin <;> exact List.not_mem_nil
    simp [hlist, Page.sheetOrigin?, Page.kind, element?_create]

/-- In every document that operations lead to, the lists are as they should be. -/
theorem run_enlisted (doctype : Option String) (o : Options) (os : List Operation) :
    ((create doctype o).run os).page.tree.Valid ∧ ((create doctype o).run os).Enlisted :=
  run_valid_induction (fun _ => True) (fun _ _ => step_enlisted) os (fun _ _ => trivial)
    (create_valid doctype o) (create_enlisted doctype o)

end Document

/-! ## What the lists are -/

/-- Which elements the lists of a store hold, and how. -/
structure SheetStore.DefinersOf (s : SheetStore) (p : Page) : Prop where
  /-- The links of the document with the relation, a reference and no type but that of CSS. -/
  linked : ∀ n, n ∈ s.linked ↔ p.tree.isConnected n = true ∧ p.kind n = .link ∧
    (∃ rel, p.attr? n "rel" = some rel ∧
      ∃ word ∈ words rel, Ascii.eqIgnoreCase word "stylesheet" = true) ∧
    (∃ href, p.attr? n "href" = some href) ∧
    ∀ type, p.attr? n "type" = some type →
      type = "" ∨ Ascii.eqIgnoreCase (trim type) "text/css" = true
  /-- The style elements of the document with no type but that of CSS. -/
  embedded : ∀ n, n ∈ s.embedded ↔ p.tree.isConnected n = true ∧ p.kind n = .style ∧
    ∀ type, p.attr? n "type" = some type →
      type = "" ∨ Ascii.eqIgnoreCase (trim type) "text/css" = true
  nodup_linked : s.linked.Nodup
  nodup_embedded : s.embedded.Nodup
  disjoint : s.linked.Disjoint s.embedded
  sorted_linked : s.linked.Pairwise fun a b => p.tree.compare a b = .lt
  sorted_embedded : s.embedded.Pairwise fun a b => p.tree.compare a b = .lt

namespace Page

variable {p : Page} {n : NodeId}

theorem hasRel_iff {word : String} : p.hasRel n word = true ↔ ∃ rel, p.attr? n "rel" = some rel ∧
    ∃ w ∈ words rel, Ascii.eqIgnoreCase w word = true := by
  simp [hasRel, Option.any_eq_true]

theorem hasAttr_iff {name : String} :
    p.hasAttr n name = true ↔ ∃ value, p.attr? n name = some value :=
  Option.isSome_iff_exists

theorem hasCssType_iff : p.hasCssType n = true ↔ ∀ type, p.attr? n "type" = some type →
    type = "" ∨ Ascii.eqIgnoreCase (trim type) "text/css" = true := by
  simp [hasCssType, Option.all_eq_true]

end Page

theorem Enlists.definersOf {s : SheetStore} {p : Page} (hvalid : p.tree.Valid)
    (h : Enlists s p (p.tree.preorder Tree.root) []) : s.DefinersOf p where
  linked n := by
    have := h.mem .linked n List.not_mem_nil
    change n ∈ s.linked ↔ _ at this
    rw [this, Page.sheetOrigin?_eq_linked, Page.hasRel_iff, Page.hasAttr_iff, Page.hasCssType_iff]
    exact and_left_comm
  embedded n := by
    have := h.mem .embedded n List.not_mem_nil
    change n ∈ s.embedded ↔ _ at this
    rw [this, Page.sheetOrigin?_eq_embedded, Page.hasCssType_iff]
    exact and_left_comm
  nodup_linked := (hvalid.nodup_preorder Tree.root).sublist (h.sublist .linked)
  nodup_embedded := (hvalid.nodup_preorder Tree.root).sublist (h.sublist .embedded)
  disjoint n hl he := by
    cases (h.kind .linked n hl).symm.trans (h.kind .embedded n he)
  sorted_linked := (hvalid.pairwise_compare.sublist (h.sublist .linked)).imp And.left
  sorted_embedded := (hvalid.pairwise_compare.sublist (h.sublist .embedded)).imp And.left

/-- The lists of every document that operations lead to hold the elements of the document that
define a style sheet, each once and in tree order. -/
theorem Document.definers_run (doctype : Option String) (o : Options) (os : List Operation) :
    ((create doctype o).run os).sheets.DefinersOf ((create doctype o).run os).page :=
  (run_enlisted doctype o os).2.definersOf (run_enlisted doctype o os).1

end StyleTree
