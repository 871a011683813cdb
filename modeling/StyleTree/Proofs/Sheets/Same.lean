import StyleTree.Proofs.Sheets.Build

/-!
# Pages with the same list

What of a page decides the list of style sheets: the elements that define a sheet, some of their
attributes and their text, the first base element with a reference, the sets that are named as
preferred, and the URL but for its fragment. `SameSheets` says that two pages agree in that; they
have the same list, but for what embedded sheets record.
-/

namespace StyleTree

open SheetStore

structure SameSheets (p q : Page) : Prop where
  definers : ∀ o, definersOf q o = definersOf p o
  attr : ∀ o, ∀ n ∈ definersOf p o, ∀ name ∈ o.attributes, q.attr? n name = p.attr? n name
  text : ∀ n ∈ definersOf p .embedded, q.tree.childText n = p.tree.childText n
  base : q.baseHref? = p.baseHref?
  url : q.url.map Url.withoutFragment = p.url.map Url.withoutFragment
  named : q.elements.filterMap q.namedSet? = p.elements.filterMap p.namedSet?

namespace SheetStore

variable {p q : Page} {loader : Loader} {o : SheetOrigin} {n : NodeId}

theorem mem_definersOf :
    n ∈ definersOf p o ↔ n ∈ p.tree.preorder Tree.root ∧ p.sheetOrigin? n = some o := by
  simp [definersOf]

/-- What is loaded for an element is decided by its reference or its text, and by the base URL. -/
theorem load_congr (hhref : o = .linked → q.attr? n "href" = p.attr? n "href")
    (htext : o = .embedded → q.tree.childText n = p.tree.childText n)
    (hbase : q.baseUrl.map Url.withoutFragment = p.baseUrl.map Url.withoutFragment) :
    (load q loader n o).1.map (LoadedSheet.shown o) =
      (load p loader n o).1.map (LoadedSheet.shown o) := by
  cases o with
  | linked =>
    have hresolve : Page.resolve? q.baseUrl = Page.resolve? p.baseUrl :=
      funext fun reference => Page.resolve?_congr hbase reference
    simp only [load, hhref rfl, hresolve]
  | embedded =>
    simp only [load, htext rfl]
    rfl

end SheetStore

namespace SameSheets

variable {p q : Page} {loader : Loader} {o : SheetOrigin} {n : NodeId}

theorem ownEntry (h : SameSheets p q) (hn : n ∈ definersOf p o) :
    ownEntry q loader o n = ownEntry p loader o n := by
  have hq := h.definers o ▸ hn
  have helement : p.isElement n = true ∧ q.isElement n = true :=
    ⟨Page.isElement_of_sheetOrigin? (mem_definersOf.mp hn).2,
      Page.isElement_of_sheetOrigin? (mem_definersOf.mp hq).2⟩
  have hattr := h.attr o n hn
  have hload : (load q loader n o).1.map (LoadedSheet.shown o) =
      (load p loader n o).1.map (LoadedSheet.shown o) := by
    refine load_congr ?_ ?_ (Page.baseUrl_congr h.base h.url)
    · rintro rfl
      exact hattr "href" (by simp [SheetOrigin.attributes])
    · rintro rfl
      exact h.text n hn
  have htitle : titleOf q n = titleOf p n := by
    have := hattr "title" (by cases o <;> simp [SheetOrigin.attributes])
    simp [titleOf, this]
  have hmedia : q.attr? n "media" = p.attr? n "media" :=
    hattr "media" (by cases o <;> simp [SheetOrigin.attributes])
  have hlink : o = .linked → q.hasRel n "alternate" = p.hasRel n "alternate" ∧
      q.hasAttr n "disabled" = p.hasAttr n "disabled" := by
    rintro rfl
    have hrel := hattr "rel" (by simp [SheetOrigin.attributes])
    have hdisabled := hattr "disabled" (by simp [SheetOrigin.attributes])
    simp [Page.hasRel, Page.hasAttr, hrel, hdisabled]
  have hlisted : isListed q o n = isListed p o n := by
    cases o with
    | linked => simp [isListed, helement, htitle, hlink]
    | embedded => simp [isListed, helement]
  have hlisting : listing q o n = listing p o n := by
    funext sheet
    cases o with
    | linked => simp [listing, htitle, hmedia, hlink]
    | embedded => simp [listing, htitle, hmedia]
  simp only [SheetStore.ownEntry, hlisted, hload, hlisting]

theorem ownEntries (h : SameSheets p q) : ownEntries q loader = ownEntries p loader := by
  unfold SheetStore.ownEntries
  rw [h.definers, h.definers]
  congr 1
  · exact List.filterMap_congr fun n hn => h.ownEntry hn
  · exact List.filterMap_congr fun n hn => h.ownEntry hn

end SameSheets

/-! ## The list from nothing -/

/-- The store with nothing kept, and with the elements of the page that define a sheet. -/
def SheetStore.cleared (s : SheetStore) (p : Page) : SheetStore :=
  { s with
    linked := p.elements.filter (p.sheetOrigin? · = some .linked)
    embedded := p.elements.filter (p.sheetOrigin? · = some .embedded)
    list := none
    contents := []
    requests := [] }

/-- The list of style sheets, made from the tree, the URL and the selection alone. -/
def Document.rebuiltList (d : Document) : SheetList :=
  ((d.sheets.cleared d.page).build d.page d.loader).1

theorem SheetStore.definers_cleared (s : SheetStore) (p : Page) (o : SheetOrigin) :
    (s.cleared p).definers o = definersOf p o := by
  have hall : ∀ o, p.elements.filter (p.sheetOrigin? · = some o) = definersOf p o := by
    intro o
    rw [Page.elements, List.filter_filter]
    refine List.filter_congr fun n _ => ?_
    by_cases ho : p.sheetOrigin? n = some o
    · simp [ho, Page.isElement_of_sheetOrigin? ho]
    · simp [ho]
  cases o with
  | linked => exact hall .linked
  | embedded => exact hall .embedded

namespace Document

variable {d d' : Document}

theorem shown_rebuiltList :
    d.rebuiltList.shown = d.sheets.assemble d.page (ownEntries d.page d.loader) := by
  have hkept : Kept (d.sheets.cleared d.page) d.page d.loader [] := kept_of_contents_nil rfl []
  exact (hkept.build (d.sheets.definers_cleared d.page)).1

theorem rebuiltList_congr (hselection : SameSelection d.sheets d'.sheets)
    (hloader : d'.loader = d.loader) (hpage : SameSheets d.page d'.page) :
    d'.rebuiltList.shown = d.rebuiltList.shown := by
  rw [shown_rebuiltList, shown_rebuiltList, hloader, hpage.ownEntries]
  exact assemble_congr hselection hpage.named _

end Document

/-! ## Nodes that do not matter -/

/-- The node defines no sheet, and says nothing about the base URL and the preferred set. -/
structure Page.Blank (p : Page) (n : NodeId) : Prop where
  origin : p.sheetOrigin? n = none
  base : p.ownBaseHref? n = none
  named : p.namedSet? n = none

/-- The node is the same for the list of style sheets. -/
structure Page.SameNode (p q : Page) (n : NodeId) : Prop where
  origin : q.sheetOrigin? n = p.sheetOrigin? n
  base : q.ownBaseHref? n = p.ownBaseHref? n
  named : q.namedSet? n = p.namedSet? n

namespace Page

variable {p q : Page} {n : NodeId}

theorem SameNode.of_element? (helement : q.element? n = p.element? n)
    (horigin : q.sheetOrigin? n = p.sheetOrigin? n) : p.SameNode q n where
  origin := horigin
  base := by simp [ownBaseHref?, kind_congr helement, attr?_congr helement]
  named := by simp [namedSet?, isDefaultStyle, kind_congr helement, attr?_congr helement]

theorem isElement_of_ownBaseHref? (h : p.ownBaseHref? n ≠ none) : p.isElement n = true := by
  refine isElement_of_kind fun hk => h ?_
  simp [ownBaseHref?, hk]

theorem isElement_of_namedSet? (h : p.namedSet? n ≠ none) : p.isElement n = true := by
  refine isElement_of_kind fun hk => h ?_
  simp [namedSet?, isDefaultStyle, hk]

/-- What only elements have is collected from the elements or from all nodes. -/
theorem filterMap_elements {f : NodeId → Option String}
    (hf : ∀ n, f n ≠ none → p.isElement n = true) :
    p.elements.filterMap f = (p.tree.preorder Tree.root).filterMap f := by
  rw [elements, List.filterMap_filter]
  refine List.filterMap_congr fun n _ => ?_
  cases hn : f n with
  | none => simp
  | some _ => simp [hf n (by simp [hn])]

/-- Only the nodes of `relevant` have anything to collect. -/
theorem filterMap_congr_of_filter {α : Type} {l l' : List NodeId} {relevant : NodeId → Bool}
    {f g : NodeId → Option α} (hl : l'.filter relevant = l.filter relevant)
    (hf : ∀ n, relevant n = false → f n = none ∧ g n = none)
    (hfg : ∀ n ∈ l, relevant n = true → g n = f n) : l'.filterMap g = l.filterMap f := by
  have hall : ∀ (l : List NodeId) (h : NodeId → Option α),
      (∀ n, relevant n = false → h n = none) → l.filterMap h = (l.filter relevant).filterMap h := by
    intro l h hh
    rw [List.filterMap_filter]
    refine List.filterMap_congr fun n _ => ?_
    cases hr : relevant n with
    | true => rfl
    | false => simp [hh n hr]
  rw [hall l' g fun n hn => (hf n hn).2, hall l f fun n hn => (hf n hn).1, hl]
  refine List.filterMap_congr fun n hn => ?_
  obtain ⟨hn, hr⟩ := List.mem_filter.mp hn
  exact hfg n hn hr

theorem baseHref?_congr {relevant : NodeId → Bool}
    (hl : (q.tree.preorder Tree.root).filter relevant = (p.tree.preorder Tree.root).filter relevant)
    (hblank : ∀ n, relevant n = false → p.ownBaseHref? n = none ∧ q.ownBaseHref? n = none)
    (hsame : ∀ n ∈ p.tree.preorder Tree.root, relevant n = true →
      q.ownBaseHref? n = p.ownBaseHref? n) : q.baseHref? = p.baseHref? := by
  unfold baseHref?
  rw [← List.head?_filterMap, ← List.head?_filterMap,
    filterMap_elements fun _ => isElement_of_ownBaseHref?,
    filterMap_elements fun _ => isElement_of_ownBaseHref?]
  rw [filterMap_congr_of_filter hl hblank hsame]

end Page

/-- Pages that agree node by node, but for blank nodes, have the same list. -/
theorem SameSheets.of_nodes {p q : Page} (relevant : NodeId → Bool)
    (hl : (q.tree.preorder Tree.root).filter relevant = (p.tree.preorder Tree.root).filter relevant)
    (hblank : ∀ n, relevant n = false → p.Blank n ∧ q.Blank n)
    (hsame : ∀ n ∈ p.tree.preorder Tree.root, relevant n = true → p.SameNode q n)
    (hattr : ∀ o, ∀ n ∈ definersOf p o, ∀ name ∈ o.attributes, q.attr? n name = p.attr? n name)
    (htext : ∀ n ∈ definersOf p .embedded, q.tree.childText n = p.tree.childText n)
    (hurl : q.url.map Url.withoutFragment = p.url.map Url.withoutFragment) :
    SameSheets p q where
  definers o := by
    have hguard : ∀ p : Page, definersOf p o = (p.tree.preorder Tree.root).filterMap fun n =>
        if p.sheetOrigin? n = some o then some n else none := by
      intro p
      rw [definersOf, ← List.filterMap_eq_filter]
      refine List.filterMap_congr fun n _ => ?_
      simp [Option.guard]
    rw [hguard, hguard]
    refine Page.filterMap_congr_of_filter hl ?_ ?_
    · intro n hn
      simp [(hblank n hn).1.origin, (hblank n hn).2.origin]
    · intro n hn hr
      rw [(hsame n hn hr).origin]
  attr := hattr
  text := htext
  base := Page.baseHref?_congr hl (fun n hn => ⟨(hblank n hn).1.base, (hblank n hn).2.base⟩)
    fun n hn hr => (hsame n hn hr).base
  url := hurl
  named := by
    rw [Page.filterMap_elements fun _ => Page.isElement_of_namedSet?,
      Page.filterMap_elements fun _ => Page.isElement_of_namedSet?]
    exact Page.filterMap_congr_of_filter hl
      (fun n hn => ⟨(hblank n hn).1.named, (hblank n hn).2.named⟩)
      fun n hn hr => (hsame n hn hr).named

end StyleTree
