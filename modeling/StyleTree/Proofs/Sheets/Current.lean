import StyleTree.Proofs.Sheets.Coherence

/-!
# Every document has the list that it would build

Each step keeps a document coherent, so the list of style sheets that a document has after any
operations is the one that is built from its tree, its URL and its selection alone.
-/

namespace StyleTree

open SheetStore

namespace Document

variable {d d' : Document}

/-! ## Nodes that are put in, taken out or given another text -/

theorem sameBeside_of_graft {p q : Page} (hvalid : p.tree.Valid) (hvalid' : q.tree.Valid)
    {parent n : NodeId} {xs ys : List NodeId} (g : Tree.Graft p.tree q.tree parent n xs ys)
    (hdata : ∀ m, q.tree.data? m = p.tree.data? m) (hurl : q.url = p.url) :
    p.SameBeside q (some parent) (p.tree.preorder n) := by
  have helement : ∀ m, q.element? m = p.element? m := by
    intro m
    simp only [Page.element?, Tree.element?, hdata]
  refine ⟨helement, ?_, ?_, fun _ hr => g.filter_preorder hr, hurl⟩
  · intro m hm
    exact Page.sheetOrigin?_of_element? (helement m)
      (hvalid.isConnected_congr hvalid' (g.mem_preorder_of_not_mem hm))
  · intro m hm
    refine Tree.childText_congr (g.other m fun he => hm (he ▸ rfl)) fun c _ => ?_
    rw [hdata]

theorem moves_detach (hvalid : d.page.tree.Valid) {p n : NodeId}
    (hp : d.page.tree.parent? n = some p) : d.Moves (d.detach p n) := by
  obtain ⟨xs, ys, g⟩ := hvalid.graft_unlink hp
  let cut : Document := { d.withTree (d.page.tree.unlink n) with
    cache := ((d.page.tree.unlink n).preorder n).foldl StyleCache.forget d.cache }
  have hbeside : cut.page.SameBeside d.page (some p) (cut.page.tree.preorder n) :=
    sameBeside_of_graft (hvalid.unlink hp) hvalid g (fun _ => Tree.data?_unlink.symm) rfl
  exact @Moves.intro d cut .removed _ _ rfl rfl rfl hbeside.symm

theorem moves_attach (hvalid : d.page.tree.Valid) {p n : NodeId} {before : Option NodeId}
    {parent child : NodeData} (hcan : CanInsert d.page.tree p n before parent child)
    (hroot : d.page.tree.parent? n = none) : d.Moves (d.attach p n before) := by
  have hvalid' := hvalid.link hcan hroot
  obtain ⟨xs, ys, rfl, i⟩ := hcan.insertable hvalid.toSound hroot
  have g := i.graft hvalid.toSound
  let put : Document := d.withTree (d.page.tree.link p n ys.head?)
  have hbeside : d.page.SameBeside put.page (some p) (d.page.tree.preorder n) :=
    sameBeside_of_graft hvalid hvalid' g (fun _ => Tree.data?_link) rfl
  rw [← g.preorder_self] at hbeside
  exact @Moves.intro d put .inserted _ _ rfl rfl rfl hbeside

theorem moves_withText (hvalid : d.page.tree.Valid) {n : NodeId} {old new : NodeData}
    {text : String} (hold : d.page.tree.data? n = some old)
    (hnew : Edit.withText? text old = some new) : d.Moves (d.withText n new) := by
  have hvalid' := hvalid.setData hold (.of_withText? hnew)
  have helement := Tree.element?_setData_of_withText? hold hnew
  let put : Document := d.withTree (d.page.tree.setData n new)
  have hbeside : d.page.SameBeside put.page (d.page.tree.parent? n) [] := by
    refine ⟨helement, fun m _ => ?_, fun m hm => ?_, fun _ _ => ?_, rfl⟩
    · exact Page.sheetOrigin?_of_element? (helement m)
        (hvalid.isConnected_congr hvalid' (by rw [hvalid.preorder_setData]))
    · refine Tree.childText_congr hvalid.children_setData fun c hc => ?_
      show ((d.page.tree.setData n new).data? c).bind _ = _
      rw [Tree.data?_setData (Tree.has_of_data? hold), if_neg]
      rintro rfl
      exact hm (hvalid.mem_children.mp hc)
    · show (Tree.preorder (d.page.tree.setData n new) _).filter _ = _
      rw [hvalid.preorder_setData]
  exact @Moves.intro d put .inserted _ _ rfl rfl rfl hbeside

/-! ## New nodes -/

section Push

variable {data : NodeData} {m : NodeId}

theorem element?_push_of_has (hm : d.page.tree.has m = true) :
    (d.push data).page.element? m = d.page.element? m := by
  show (d.page.tree.push data).element? m = _
  rw [Tree.element?_push, if_neg]
  · rfl
  · rintro rfl
    simp [Tree.not_has_fresh] at hm

/-- The new node is below nothing, so no list of the document meets it. -/
theorem sheetOrigin?_push_of_has (hvalid : d.page.tree.Valid) (hdata : data ≠ .document)
    (hm : d.page.tree.has m = true) :
    (d.push data).page.sheetOrigin? m = d.page.sheetOrigin? m := by
  refine Page.sheetOrigin?_of_element? (element?_push_of_has hm)
    (hvalid.isConnected_congr (hvalid.push hdata) ?_)
  rw [hvalid.preorder_push]

theorem childText_push (hvalid : d.page.tree.Valid) (m : NodeId) :
    (d.push data).page.tree.childText m = d.page.tree.childText m := by
  refine Tree.childText_congr hvalid.children_push fun c hc => ?_
  rw [tree_push, Tree.data?_push_of_has (Tree.has_of_parent (hvalid.mem_children.mp hc))]

theorem sameSheets_push (hvalid : d.page.tree.Valid) (hdata : data ≠ .document) :
    SameSheets d.page (d.push data).page := by
  have hpreorder : (d.push data).page.tree.preorder Tree.root = d.page.tree.preorder Tree.root := by
    rw [tree_push, hvalid.preorder_push]
  have hhas : ∀ m ∈ d.page.tree.preorder Tree.root, d.page.tree.has m = true :=
    fun m hm => hvalid.has_of_mem_preorder hvalid.has_root hm
  refine .of_nodes (fun _ => true) (by rw [hpreorder]) (fun _ h => nomatch h) ?_ ?_
    (fun m _ => childText_push hvalid m) rfl
  · intro m hm _
    exact .of_element? (element?_push_of_has (hhas m hm))
      (sheetOrigin?_push_of_has hvalid hdata (hhas m hm))
  · intro o m hm name _
    exact Page.attr?_congr (element?_push_of_has (hhas m (mem_definersOf.mp hm).1)) name

theorem coherent_push (hvalid : d.page.tree.Valid) (h : d.Coherent) (hdata : data ≠ .document) :
    (d.push data).Coherent := by
  have hhas : ∀ m, d.page.kind m ≠ .other → d.page.tree.has m = true := by
    intro m hm
    obtain ⟨e, he⟩ := Page.isElement_iff.mp (Page.isElement_of_kind hm)
    obtain ⟨data, hdata, -⟩ := Option.bind_eq_some_iff.mp he
    exact Tree.has_of_data? hdata
  have hpage := sameSheets_push hvalid hdata
  refine h.step (h.kept.transport ?_ ?_ ?_ (fun m _ _ => childText_push hvalid m)
    (fun _ => hpage.base) rfl) ?_
  · exact fun m hm => Page.kind_congr (element?_push_of_has (hhas m hm))
  · exact fun m hm _ => sheetOrigin?_push_of_has hvalid hdata (hhas m hm)
  · intro m hm _
    exact Page.attr?_congr (element?_push_of_has (hhas m (hm ▸ by decide))) "href"
  · exact fun l hl => ⟨hl, ⟨rfl, rfl, rfl⟩, rfl, hpage⟩

end Push

/-! ## Elements with other attributes or states -/

section WithElement

variable {n : NodeId} {e new : Element}

theorem element?_withElement_of_ne (he : d.page.tree.data? n = some (.element e)) {m : NodeId}
    (hm : m ≠ n) : (d.withElement n new).page.element? m = d.page.element? m := by
  show (d.page.tree.setData n (.element new)).element? m = _
  rw [Tree.element?_setData (Tree.has_of_data? he), if_neg (Ne.symm hm)]
  rfl

/-- An element is no text. -/
theorem childText_withElement (hvalid : d.page.tree.Valid)
    (he : d.page.tree.data? n = some (.element e)) (m : NodeId) :
    (d.withElement n new).page.tree.childText m = d.page.tree.childText m := by
  refine Tree.childText_congr hvalid.children_setData fun c _ => ?_
  show ((d.page.tree.setData n (.element new)).data? c).bind _ = _
  rw [Tree.data?_setData (Tree.has_of_data? he)]
  split
  · subst c
    rw [he]
    rfl
  · rfl

theorem preorder_withElement (hvalid : d.page.tree.Valid) (m : NodeId) :
    (d.withElement n new).page.tree.preorder m = d.page.tree.preorder m :=
  hvalid.preorder_setData

theorem sheetOrigin?_withElement_of_ne (hvalid : d.page.tree.Valid)
    (he : d.page.tree.data? n = some (.element e)) {m : NodeId} (hm : m ≠ n) :
    (d.withElement n new).page.sheetOrigin? m = d.page.sheetOrigin? m :=
  Page.sheetOrigin?_of_element? (element?_withElement_of_ne he hm)
    (isConnected_withElement hvalid he)

/-- An element with another one in its place that is the same for the list. -/
theorem sameSheets_withElement (hvalid : d.page.tree.Valid)
    (he : d.page.tree.data? n = some (.element e))
    (hn : d.page.SameNode (d.withElement n new).page n)
    (hattr : ∀ o : SheetOrigin, d.page.kind n = o.kind → ∀ name ∈ o.attributes,
      (d.withElement n new).page.attr? n name = d.page.attr? n name) :
    SameSheets d.page (d.withElement n new).page := by
  refine .of_nodes (fun _ => true) (by rw [preorder_withElement hvalid]) (fun _ h => nomatch h)
    ?_ ?_ (fun m _ => childText_withElement hvalid he m) rfl
  · intro m _ _
    by_cases hm : m = n
    · exact hm ▸ hn
    · exact .of_element? (element?_withElement_of_ne he hm)
        (sheetOrigin?_withElement_of_ne hvalid he hm)
  · intro o m hm name hname
    by_cases he' : m = n
    · subst m
      exact hattr o (Page.kind_of_sheetOrigin? (mem_definersOf.mp hm).2) name hname
    · exact Page.attr?_congr (element?_withElement_of_ne he he') name

/-- The base elements are the same if `n` is none, or has the same reference. -/
theorem baseHref?_withElement (hvalid : d.page.tree.Valid)
    (he : d.page.tree.data? n = some (.element e)) (hname : new.name = e.name)
    (hn : d.page.kind n = .base →
      (d.withElement n new).page.attr? n "href" = d.page.attr? n "href") :
    (d.withElement n new).page.baseHref? = d.page.baseHref? := by
  have hlist : ∀ relevant, ((d.withElement n new).page.tree.preorder Tree.root).filter relevant =
      (d.page.tree.preorder Tree.root).filter relevant := by
    intro relevant
    rw [preorder_withElement hvalid]
  refine Page.baseHref?_congr (hlist fun _ => true) (fun _ h => nomatch h) fun m _ _ => ?_
  by_cases hm : m = n
  · subst m
    unfold Page.ownBaseHref?
    rw [kind_withElement he hname]
    split
    · exact hn ‹_›
    · rfl
  · exact (Page.SameNode.of_element? (element?_withElement_of_ne he hm)
      (sheetOrigin?_withElement_of_ne hvalid he hm)).base

/-- What is kept of the other elements is kept on. -/
theorem kept_withElement (hvalid : d.page.tree.Valid) (h : d.Coherent)
    (he : d.page.tree.data? n = some (.element e)) (hname : new.name = e.name) :
    Kept d.sheets (d.withElement n new).page d.loader [n] := by
  have hkind : (d.withElement n new).page.kind n = d.page.kind n := kind_withElement he hname
  refine h.kept.transport ?_ ?_ ?_ (fun m _ _ => childText_withElement hvalid he m) ?_ rfl
  · intro m _
    by_cases hm : m = n
    · exact hm ▸ hkind
    · exact Page.kind_congr (element?_withElement_of_ne he hm)
  · intro m _ hm
    exact sheetOrigin?_withElement_of_ne hvalid he (by simpa using hm)
  · intro m _ hm
    exact Page.attr?_congr (element?_withElement_of_ne he (by simpa using hm)) "href"
  · intro hbase
    have hn := hbase n List.mem_cons_self
    rw [hkind] at hn
    exact baseHref?_withElement hvalid he hname fun hk => absurd hk hn

/-- What is kept of all elements is kept on if the element is the same for the list. -/
theorem kept_withElement_of_same (hvalid : d.page.tree.Valid) (h : d.Coherent)
    (he : d.page.tree.data? n = some (.element e)) (hname : new.name = e.name)
    (hn : d.page.SameNode (d.withElement n new).page n)
    (hattr : ∀ o : SheetOrigin, d.page.kind n = o.kind → ∀ name ∈ o.attributes,
      (d.withElement n new).page.attr? n name = d.page.attr? n name) :
    Kept d.sheets (d.withElement n new).page d.loader [] := by
  have hkind : (d.withElement n new).page.kind n = d.page.kind n := kind_withElement he hname
  refine h.kept.transport ?_ ?_ ?_ (fun m _ _ => childText_withElement hvalid he m)
    (fun _ => (sameSheets_withElement hvalid he hn hattr).base) rfl
  · intro m _
    by_cases hm : m = n
    · exact hm ▸ hkind
    · exact Page.kind_congr (element?_withElement_of_ne he hm)
  · intro m _ _
    by_cases hm : m = n
    · exact hm ▸ hn.origin
    · exact sheetOrigin?_withElement_of_ne hvalid he hm
  · intro m hk _
    by_cases hm : m = n
    · subst m
      exact hattr .linked hk "href" (by simp [SheetOrigin.attributes])
    · exact Page.attr?_congr (element?_withElement_of_ne he hm) "href"

end WithElement

theorem coherent_withAttributes (hvalid : d.page.tree.Valid) (h : d.Coherent) {n : NodeId}
    {e : Element} {as : List Attribute} {changed : Name}
    (he : d.page.tree.data? n = some (.element e))
    (hsame : Element.SameBut changed as e.attributes) :
    (d.withAttributes n e as changed).Coherent := by
  let put : Document := d.withElement n { e with attributes := as }
  have hkind : put.page.kind n = d.page.kind n := kind_withElement he rfl
  have helement : put.page.isElement n = true :=
    Page.isElement_iff.mpr ⟨_, element?_withElement he⟩
  by_cases haffects : put.page.affectsSheets n (.ofAttribute changed) = true
  · -- The store is told: it forgets what it kept for the element, and the list with it.
    have hkept : Kept put.sheets put.page d.loader [n] := kept_withElement hvalid h he rfl
    refine h.step ?_ fun l hl => ?_
    · rw [withAttributes, page_notify, loader_notify]
      exact hkept.notify_settles fun _ => haffects
    · have := (list_notify hl).2 helement
      rw [haffects] at this
      cases this
  · -- The store is not told, so all that it reads of the element has to be as before.
    have haffects := Bool.eq_false_iff.mpr haffects
    obtain ⟨horigin, hattr⟩ := same_of_not_affects hvalid he hsame haffects
    have hother : ∀ {name}, changed.isPlain name = false →
        put.page.attr? n name = d.page.attr? n name :=
      fun hne => attr?_withElement he hsame hne
    have hn : d.page.SameNode put.page n := by
      refine ⟨horigin, ?_, ?_⟩
      · by_cases hk : put.page.kind n = .base
        · simp [Page.ownBaseHref?, hkind, hother (Page.isPlain_of_base hk haffects)]
        · simp [Page.ownBaseHref?, hk, hkind ▸ hk]
      · by_cases hk : put.page.kind n = .metadata
        · obtain ⟨hequiv, hcontent⟩ := Page.isPlain_of_metadata hk haffects
          have hdefault : put.page.isDefaultStyle n = d.page.isDefaultStyle n := by
            simp [Page.isDefaultStyle, hkind, hother hequiv]
          unfold Page.namedSet?
          rw [← hdefault]
          split
          next hd => rw [hother (hcontent hd)]
          · rfl
        · simp [Page.namedSet?, Page.isDefaultStyle, hk, hkind ▸ hk]
    have hkept : Kept d.sheets put.page d.loader [] :=
      kept_withElement_of_same hvalid h he rfl hn hattr
    refine h.step ?_ fun l hl => ?_
    · rw [withAttributes, page_notify, loader_notify]
      exact SheetStore.Kept.notify (d := put) hkept
    · refine ⟨(list_notify hl).1, sameSelection_notify (d := put), loader_notify, ?_⟩
      rw [withAttributes, page_notify]
      exact sameSheets_withElement hvalid he hn hattr

theorem coherent_withStates (hvalid : d.page.tree.Valid) (h : d.Coherent) {n : NodeId}
    {e new : Element} (he : d.page.tree.data? n = some (.element e)) (hname : new.name = e.name)
    (hattributes : new.attributes = e.attributes) : (d.withStates n new).Coherent := by
  have hold : d.page.element? n = some e := Tree.element?_of_data? he
  have hkind : (d.withElement n new).page.kind n = d.page.kind n := kind_withElement he hname
  have hattr : ∀ name, (d.withElement n new).page.attr? n name = d.page.attr? n name := by
    intro name
    simp [Page.attr?, element?_withElement he, hold, Element.attr?, Element.attrIn?, hattributes]
  have hn : d.page.SameNode (d.withElement n new).page n := by
    refine ⟨?_, ?_, ?_⟩
    · exact Page.sheetOrigin?_congr hkind (isConnected_withElement hvalid he)
        (fun _ => ⟨hattr _, hattr _⟩) fun _ => hattr _
    · simp [Page.ownBaseHref?, hkind, hattr]
    · simp [Page.namedSet?, Page.isDefaultStyle, hkind, hattr]
  refine h.step (kept_withElement_of_same hvalid h he hname hn fun _ _ name _ => hattr name) ?_
  exact fun l hl => ⟨hl, ⟨rfl, rfl, rfl⟩, rfl,
    sameSheets_withElement hvalid he hn fun _ _ name _ => hattr name⟩

/-! ## The document -/

theorem coherent_withUrl (h : d.Coherent) (url : Option Url) : (d.withUrl url).Coherent := by
  unfold withUrl
  dsimp only
  split
  next hurl =>
    have hpage : SameSheets d.page { d.page with url } := by
      exact .of_nodes (fun _ => true) rfl (fun _ h => nomatch h) (fun _ _ _ => ⟨rfl, rfl, rfl⟩)
        (fun _ _ _ _ _ => rfl) (fun _ _ => rfl) hurl.symm
    refine h.step ?_ fun l hl => ⟨hl, ⟨rfl, rfl, rfl⟩, rfl, hpage⟩
    exact h.kept.transport (fun _ _ => rfl) (fun _ _ _ => rfl) (fun _ _ _ => rfl)
      (fun _ _ _ => rfl) (fun _ => rfl) hurl.symm
  · exact coherent_of_forgotten rfl rfl

theorem Enlisted.definers_eq (h : d.Enlisted) (hvalid : d.page.tree.Valid) (o : SheetOrigin) :
    d.sheets.definers o = definersOf d.page o := by
  have hnodup := hvalid.nodup_preorder Tree.root
  have hself : (d.sheets.definers o).filter (d.page.sheetOrigin? · = some o) =
      d.sheets.definers o := by
    rw [List.filter_eq_self]
    intro n hn
    simpa using (h.mem o n List.not_mem_nil).mp hn
  have hsub : (d.sheets.definers o).Sublist (definersOf d.page o) := by
    rw [← hself]
    exact (h.sublist o).filter _
  refine hsub.eq_of_length_le (List.Nodup.subperm (hnodup.filter _) ?_).length_le
  intro n hn
  exact (h.mem o n List.not_mem_nil).mpr (mem_definersOf.mp hn).2

theorem coherent_readSheets (hvalid : d.page.tree.Valid) (henlisted : d.Enlisted)
    (h : d.Coherent) : d.readSheets.2.Coherent := by
  cases hl : d.sheets.list with
  | some l =>
    have : d.readSheets.2 = d := by simp [readSheets, hl]
    rw [this]
    exact h
  | none =>
    obtain ⟨hlist, hkept⟩ := h.kept.build (henlisted.definers_eq hvalid)
    have hread : d.readSheets.2 = { d with
        sheets := { (d.sheets.build d.page d.loader).2 with
          list := some (d.sheets.build d.page d.loader).1 }
        cache := d.cache.markClean } := by
      simp [readSheets, hl]
    rw [hread]
    refine ⟨hkept.mono fun _ hx => hx, fun l hl => ?_⟩
    obtain rfl := Option.some.inj hl
    rw [hlist, shown_rebuiltList]
    exact (assemble_congr sameSelection_build rfl _).symm

theorem Coherent.withCache (h : d.Coherent) (cache : StyleCache) :
    ({ d with cache } : Document).Coherent :=
  ⟨h.kept, h.list⟩

theorem Reads.coherent (hreads : Reads d d') (hvalid : d.page.tree.Valid) (henlisted : d.Enlisted)
    (h : d.Coherent) : d'.Coherent := by
  cases hreads with
  | styles cache => exact h.withCache cache
  | list cache => exact (coherent_readSheets hvalid henlisted h).withCache cache

/-- Every step keeps a document coherent. -/
theorem step_coherent {allowed : Cascade → Prop} (hvalid : d.page.tree.Valid)
    (henlisted : d.Enlisted) (h : d.Coherent) (s : Step allowed d d') : d'.Coherent := by
  cases s with
  | push hdata => exact coherent_push hvalid h hdata
  | detach hp => exact h.moved (moves_detach hvalid hp)
  | attach hcan hroot => exact h.moved (moves_attach hvalid hcan hroot)
  | attributes he hsame => exact coherent_withAttributes hvalid h he hsame
  | states he hname hattributes => exact coherent_withStates hvalid h he hname hattributes
  | text hold hnew => exact h.moved (moves_withText hvalid hold hnew)
  | url url => exact coherent_withUrl h url
  | loader => exact coherent_of_forgotten rfl rfl
  | header | medium | register | rebuild | cascade | selectSet => exact h.dropped rfl rfl rfl rfl
  | enableSet name =>
    refine h.dropped rfl rfl ?_ rfl
    show (d.sheets.enable name).contents = _
    unfold SheetStore.enable
    split <;> rfl
  | readSheets => exact coherent_readSheets hvalid henlisted h
  | readStyle n q => exact (Reads.readStyle n q).coherent hvalid henlisted h

theorem run_coherent (doctype : Option String) (o : Options) (os : List Operation) :
    ((create doctype o).run os).page.tree.Valid ∧ ((create doctype o).run os).Enlisted ∧
      ((create doctype o).run os).Coherent :=
  run_valid_induction (fun _ => True) (P := fun d => d.Enlisted ∧ d.Coherent)
    (fun _ _ hvalid h s => ⟨step_enlisted hvalid h.1 s, step_coherent hvalid h.1 h.2 s⟩)
    os (fun _ _ => trivial) (create_valid doctype o)
    ⟨create_enlisted doctype o, coherent_of_forgotten rfl rfl⟩

theorem shown_readSheets (hvalid : d.page.tree.Valid) (henlisted : d.Enlisted) (h : d.Coherent) :
    d.readSheets.1.shown = d.rebuiltList.shown := by
  cases hl : d.sheets.list with
  | some l =>
    rw [← h.list l hl]
    simp [readSheets, hl]
  | none =>
    rw [shown_rebuiltList, ← (h.kept.build (henlisted.definers_eq hvalid)).1]
    simp [readSheets, hl]

/-- The list of style sheets that a document gives after any operations is the one that is made
from its tree, its URL and its selection alone, with nothing kept, but for the base URL that an
embedded sheet records. -/
theorem readSheets_run (doctype : Option String) (o : Options) (os : List Operation) :
    ((create doctype o).run os).readSheets.1.shown =
      ((create doctype o).run os).rebuiltList.shown :=
  let h := run_coherent doctype o os
  shown_readSheets h.1 h.2.1 h.2.2

end Document

end StyleTree
