import StyleTree.Proofs.Sheets.Requests

/-!
# The base URL that an embedded sheet records

An embedded sheet records the base URL of the document at the time when it is read, and is kept
until something changes that references in it may depend on. A change of the fragment alone is no
such thing. So what a sheet records is the base URL of the document but for the fragment: it is the
one that the document has with a URL of its own that it had since then.
-/

namespace StyleTree

open SheetStore

namespace Page

variable {p q : Page} {recent : Option Url → Prop} {b : Option Url}

/-- The page has the base URL with one of the URLs `recent`, which differs from its own in the
fragment at most. -/
def HasBase (p : Page) (recent : Option Url → Prop) (b : Option Url) : Prop :=
  ∃ url, recent url ∧ url.map Url.withoutFragment = p.url.map Url.withoutFragment ∧
    b = ({ p with url } : Page).baseUrl

theorem HasBase.congr (h : p.HasBase recent b) (hhref : q.baseHref? = p.baseHref?)
    (hurl : q.url.map Url.withoutFragment = p.url.map Url.withoutFragment) :
    q.HasBase recent b := by
  obtain ⟨url, hrecent, hfragment, rfl⟩ := h
  refine ⟨url, hrecent, hfragment.trans hurl.symm, ?_⟩
  have hhref : ({ q with url } : Page).baseHref? = ({ p with url } : Page).baseHref? := hhref
  simp only [baseUrl, hhref]

theorem HasBase.mono {recent' : Option Url → Prop} (h : p.HasBase recent b)
    (hrecent : ∀ url, url.map Url.withoutFragment = p.url.map Url.withoutFragment →
      recent url → recent' url) : p.HasBase recent' b := by
  obtain ⟨url, hold, hfragment, hb⟩ := h
  exact ⟨url, hrecent url hfragment hold, hfragment, hb⟩

theorem HasBase.withoutFragment (h : p.HasBase recent b) :
    b.map Url.withoutFragment = p.baseUrl.map Url.withoutFragment := by
  obtain ⟨url, -, hfragment, rfl⟩ := h
  exact baseUrl_congr (p := p) rfl hfragment

/-- A base element decides the base URL, whatever the fragment of the URL is. -/
theorem HasBase.of_baseHref? (h : p.HasBase recent b) {href : String} {url : Url}
    (hhref : p.baseHref? = some href) (hurl : resolve? p.url href = some url) : b = p.baseUrl := by
  obtain ⟨old, -, hfragment, rfl⟩ := h
  have hold : ({ p with url := old } : Page).baseHref? = some href := hhref
  have hsame : resolve? old href = some url := (resolve?_congr hfragment href).trans hurl
  simp [baseUrl, hold, hhref, hsame, hurl]

theorem hasBase_baseUrl (h : recent p.url) : p.HasBase recent p.baseUrl :=
  ⟨p.url, h, rfl, rfl⟩

end Page

/-! ## Reading -/

namespace SheetStore

variable {s : SheetStore} {p : Page} {loader : Loader} {o : SheetOrigin} {n : NodeId}
  {recent : Option Url → Prop}

/-- What is kept for style elements records the base URL that the page has with a recent URL. -/
def Records (s : SheetStore) (p : Page) (recent : Option Url → Prop) : Prop :=
  ∀ n sheet, (n, some sheet) ∈ s.contents → p.kind n = .style → p.HasBase recent sheet.contents.base

theorem Records.obtain? (h : s.Records p recent) (loader : Loader) (hrecent : recent p.url)
    (ho : p.sheetOrigin? n = some o) :
    (∀ sheet, (s.obtain? p loader n o).1 = some sheet → o = .embedded →
        p.HasBase recent sheet.contents.base) ∧
      (s.obtain? p loader n o).2.Records p recent := by
  have hkind := Page.kind_of_sheetOrigin? ho
  unfold SheetStore.obtain?
  split
  next m x hfind =>
    have hmem := List.mem_of_find?_eq_some hfind
    obtain rfl : m = n := by simpa using List.find?_some hfind
    refine ⟨?_, h⟩
    rintro sheet rfl rfl
    exact h m sheet hmem hkind
  · -- The sheet is read now, and records the base URL of now.
    have hload : ∀ sheet, (load p loader n o).1 = some sheet → o = .embedded →
        p.HasBase recent sheet.contents.base := by
      rintro sheet hsheet rfl
      obtain rfl := Option.some.inj hsheet
      exact Page.hasBase_baseUrl hrecent
    refine ⟨hload, ?_⟩
    intro m sheet hmem hm
    rcases List.mem_cons.mp hmem with he | hmem
    · obtain ⟨rfl, hsheet⟩ := Prod.mk.inj he
      refine hload sheet hsheet.symm ?_
      rw [hkind] at hm
      cases o with
      | linked => cases hm
      | embedded => rfl
    · exact h m sheet hmem hm

theorem Records.entry? (h : s.Records p recent) (loader : Loader) (hrecent : recent p.url)
    (ho : p.sheetOrigin? n = some o) :
    (∀ sheet, (s.entry? p loader o n).1 = some sheet → sheet.origin = .embedded →
        p.HasBase recent sheet.contents.base) ∧
      (s.entry? p loader o n).2.Records p recent := by
  obtain ⟨hsheet, hkept⟩ := h.obtain? loader hrecent ho
  unfold SheetStore.entry?
  split
  · refine ⟨?_, hkept⟩
    intro sheet hentry horigin
    obtain ⟨loaded, hloaded, rfl⟩ := Option.map_eq_some_iff.mp hentry
    exact hsheet loaded hloaded horigin
  · exact ⟨by simp, h⟩

theorem Records.entries {list : List NodeId} (h : s.Records p recent) (loader : Loader)
    (hrecent : recent p.url) (ho : ∀ n ∈ list, p.sheetOrigin? n = some o) :
    (∀ sheet ∈ (entries p loader o s list).1, sheet.origin = .embedded →
        p.HasBase recent sheet.contents.base) ∧
      (entries p loader o s list).2.Records p recent := by
  induction list generalizing s with
  | nil => exact ⟨by simp [SheetStore.entries], h⟩
  | cons n list ih =>
    obtain ⟨hfirst, hkept⟩ := h.entry? loader hrecent (ho n List.mem_cons_self)
    obtain ⟨hrest, hkept⟩ := ih hkept fun m hm => ho m (List.mem_cons_of_mem n hm)
    refine ⟨?_, hkept⟩
    intro sheet hsheet
    rcases List.mem_append.mp hsheet with hsheet | hsheet
    · exact hfirst sheet (Option.mem_toList.mp hsheet)
    · exact hrest sheet hsheet

theorem Records.build (h : s.Records p recent) (loader : Loader) (hrecent : recent p.url)
    (hs : ∀ o, ∀ n ∈ s.definers o, p.sheetOrigin? n = some o) :
    (∀ sheet ∈ (s.build p loader).1.sheets, sheet.origin = .embedded →
        p.HasBase recent sheet.contents.base) ∧
      (s.build p loader).2.Records p recent := by
  obtain ⟨hlinked, hkept⟩ := h.entries loader hrecent (hs .linked)
  have hembedded : (SheetStore.entries p loader .linked s s.linked).2.embedded = s.embedded :=
    definers_entries s .embedded p loader .linked s.linked
  obtain ⟨hrest, hkept⟩ := hkept.entries loader hrecent (hs .embedded)
  unfold SheetStore.build
  dsimp only
  rw [hembedded]
  refine ⟨?_, hkept⟩
  -- Which sets are enabled changes neither where a sheet comes from nor what it says.
  have hsettle : ∀ (s : SheetStore) selected (sheet : ListedSheet),
      (s.settle selected sheet).origin = sheet.origin ∧
        (s.settle selected sheet).contents = sheet.contents := by
    intro s selected sheet
    unfold settle
    split
    · split <;> exact ⟨rfl, rfl⟩
    · exact ⟨rfl, rfl⟩
  intro sheet hsheet horigin
  obtain ⟨own, hown, rfl⟩ := List.mem_map.mp hsheet
  rw [(hsettle _ _ own).1] at horigin
  rw [(hsettle _ _ own).2]
  rcases List.mem_append.mp hown with hown | hown
  · exact hlinked own hown horigin
  · exact hrest own hown horigin

end SheetStore

namespace Document

variable {d d' d'' : Document} {op : Operation} {recent : Option Url → Prop}

/-- All embedded sheets that are kept or listed record the base URL that the page has with a recent
URL. -/
structure Records (d : Document) (recent : Option Url → Prop) : Prop where
  kept : d.sheets.Records d.page recent
  listed : ∀ l, d.sheets.list = some l → ∀ sheet ∈ l.sheets, sheet.origin = .embedded →
    d.page.HasBase recent sheet.contents.base

theorem Records.readSheets (h : d.Records recent) (hrecent : recent d.page.url)
    (henlisted : d.Enlisted) :
    (∀ sheet ∈ d.readSheets.1.sheets, sheet.origin = .embedded →
        d.page.HasBase recent sheet.contents.base) ∧
      d.readSheets.2.Records recent := by
  cases hlist : d.sheets.list with
  | some l =>
    rw [readSheets_of_list hlist]
    exact ⟨h.listed l hlist, h⟩
  | none =>
    have hdefine : ∀ o, ∀ n ∈ d.sheets.definers o, d.page.sheetOrigin? n = some o :=
      fun o n hn => (henlisted.mem o n List.not_mem_nil).mp hn
    obtain ⟨hbuilt, hkept⟩ := h.kept.build d.loader hrecent hdefine
    simp only [Document.readSheets, hlist]
    refine ⟨hbuilt, hkept, fun l hl => ?_⟩
    obtain rfl := Option.some.inj hl
    exact hbuilt

theorem Reads.records (hreads : Reads d d') (h : d.Records recent) (hrecent : recent d.page.url)
    (henlisted : d.Enlisted) : d'.Records recent := by
  cases hreads with
  | styles cache => exact ⟨h.kept, h.listed⟩
  | list cache =>
    have hread := (h.readSheets hrecent henlisted).2
    exact ⟨hread.kept, hread.listed⟩

/-! ## Changes -/

/-- What is still kept or listed was so before, and the base elements say the same as before. -/
structure KeepsBase (d d' : Document) : Prop where
  kind : ∀ n, d.page.kind n ≠ .other → d'.page.kind n = d.page.kind n
  url : d'.page.url.map Url.withoutFragment = d.page.url.map Url.withoutFragment
  kept : ∀ x ∈ d'.sheets.contents,
    x ∈ d.sheets.contents ∧ d'.page.baseHref? = d.page.baseHref?
  listed : ∀ l, d'.sheets.list = some l →
    d.sheets.list = some l ∧ d'.page.baseHref? = d.page.baseHref?

theorem Records.keepsBase (h : d.Records recent) (hcoherent : d.Coherent) (hk : KeepsBase d d') :
    d'.Records recent where
  kept n sheet hsheet hn := by
    obtain ⟨hold, hhref⟩ := hk.kept _ hsheet
    obtain ⟨o, ho⟩ := hcoherent.kept.kind n _ hold
    rw [hk.kind n (ho ▸ o.kind_ne_other)] at hn
    exact (h.kept n sheet hold hn).congr hhref hk.url
  listed l hl sheet hsheet horigin := by
    obtain ⟨hold, hhref⟩ := hk.listed l hl
    exact (h.listed l hold sheet hsheet horigin).congr hhref hk.url

theorem KeepsBase.trans (h : KeepsBase d d') (h' : KeepsBase d' d'') : KeepsBase d d'' where
  kind n hn := by
    have hfirst := h.kind n hn
    rw [h'.kind n (by rwa [hfirst]), hfirst]
  url := h'.url.trans h.url
  kept x hx := by
    obtain ⟨hmid, hhref'⟩ := h'.kept x hx
    obtain ⟨hold, hhref⟩ := h.kept x hmid
    exact ⟨hold, hhref'.trans hhref⟩
  listed l hl := by
    obtain ⟨hmid, hhref'⟩ := h'.listed l hl
    obtain ⟨hold, hhref⟩ := h.listed l hmid
    exact ⟨hold, hhref'.trans hhref⟩

/-- The page is the same, but for the fragment of its URL. -/
theorem keepsBase_of_page (hpage : d'.page = { d.page with url := d'.page.url })
    (hurl : d'.page.url.map Url.withoutFragment = d.page.url.map Url.withoutFragment)
    (hcontents : ∀ x ∈ d'.sheets.contents, x ∈ d.sheets.contents)
    (hlist : ∀ l, d'.sheets.list = some l → d.sheets.list = some l) : KeepsBase d d' := by
  have hhref : d'.page.baseHref? = d.page.baseHref? := by
    rw [hpage]
    rfl
  refine ⟨fun n _ => ?_, hurl, fun x hx => ⟨hcontents x hx, hhref⟩, fun l hl => ⟨hlist l hl, hhref⟩⟩
  rw [hpage]
  rfl

/-- Nothing is kept of base elements that were moved: everything is forgotten with them. -/
theorem mem_contents_notifyAll {c : Change} {nodes : List NodeId} (hc : c.isMove = true)
    {x : NodeId × Option LoadedSheet} (hx : x ∈ (d.notifyAll c nodes).sheets.contents) :
    x ∈ d.sheets.contents ∧ ∀ m ∈ nodes, d.page.kind m ≠ .base := by
  induction nodes generalizing d with
  | nil => exact ⟨hx, nofun⟩
  | cons m nodes ih =>
    obtain ⟨hfirst, hnodes⟩ := ih hx
    rw [page_notify] at hnodes
    have hold : x ∈ d.sheets.contents ∧ d.page.kind m ≠ .base := by
      rcases notify_cases c d m with ⟨hm, he⟩ | ⟨hm, he⟩ | ⟨-, s, he, -, hs, hbase, -⟩ <;>
        rw [he] at hfirst
      · refine ⟨hfirst, fun hk => ?_⟩
        have := Page.isElement_of_kind (p := d.page) (n := m) (by simp [hk])
        simp [hm] at this
      · refine ⟨hfirst, fun hk => ?_⟩
        simp [Page.affectsSheets, hk, hc] at hm
      · refine ⟨hs x hfirst, fun hk => ?_⟩
        have hfirst : x ∈ s.contents := hfirst
        simp [hbase hk] at hfirst
    refine ⟨hold.1, fun n hn => ?_⟩
    rcases List.mem_cons.mp hn with rfl | hn
    · exact hold.2
    · exact hnodes n hn

theorem Moves.keepsBase (h : d.Moves d') : KeepsBase d d' := by
  obtain @⟨put, c, parent, moved, hc, hsheets, -, hbeside⟩ := h
  have hsame : (∀ m ∈ moved, put.page.kind m ≠ .base) →
      ((put.notifyAll c moved).notifyAll .children parent.toList).page.baseHref? =
        d.page.baseHref? := by
    intro hmoved
    rw [page_notifyAll, page_notifyAll]
    exact hbeside.baseHref? hmoved
  have hforget : ∀ {x : NodeId × Option LoadedSheet} {d : Document} {nodes : List NodeId},
      x ∈ (d.notifyAll .children nodes).sheets.contents → x ∈ d.sheets.contents := by
    intro x d nodes hx
    induction nodes generalizing d with
    | nil => exact hx
    | cons m nodes ih =>
      have hx := ih hx
      rcases notify_cases .children d m with ⟨-, he⟩ | ⟨-, he⟩ | ⟨-, s, he, -, hs, -⟩ <;>
        rw [he] at hx
      · exact hx
      · exact hx
      · exact hs x hx
  constructor
  case kind =>
    intro m _
    rw [page_notifyAll, page_notifyAll, hbeside.kind]
  case url => rw [page_notifyAll, page_notifyAll, hbeside.url]
  case kept =>
    intro x hx
    obtain ⟨hold, hmoved⟩ := mem_contents_notifyAll hc (hforget hx)
    exact ⟨hsheets ▸ hold, hsame hmoved⟩
  case listed =>
    intro l hl
    obtain ⟨hold, hmoved⟩ := list_notifyAll (list_notifyAll hl).1
    refine ⟨hsheets ▸ hold, hsame fun m hm hk => ?_⟩
    have := hmoved m hm (Page.isElement_of_kind (by simp [hk]))
    simp [Page.affectsSheets, hk, hc] at this

theorem keepsBase_withAttributes (hvalid : d.page.tree.Valid) {n : NodeId} {e : Element}
    {as : List Attribute} {changed : Name} (he : d.page.tree.data? n = some (.element e))
    (hsame : Element.SameBut changed as e.attributes) :
    KeepsBase d (d.withAttributes n e as changed) := by
  let put : Document := d.withElement n { e with attributes := as }
  have hkind : put.page.kind n = d.page.kind n := kind_withElement he rfl
  have hhref : (put.page.kind n = .base → put.page.affectsSheets n (.ofAttribute changed) = false) →
      (d.withAttributes n e as changed).page.baseHref? = d.page.baseHref? := by
    intro hn
    rw [withAttributes, page_notify]
    refine baseHref?_withElement hvalid he rfl fun hk => attr?_withElement he hsame ?_
    have hk' : put.page.kind n = .base := hkind.trans hk
    exact Page.isPlain_of_base hk' (hn hk')
  constructor
  case kind =>
    intro m hm
    have hstep : Step (fun _ => True) d (d.withAttributes n e as changed) := .attributes he hsame
    exact kind_step hstep hm
  case url =>
    rw [withAttributes, page_notify]
    rfl
  case kept =>
    intro x hx
    rcases notify_cases (.ofAttribute changed) put n with
      ⟨hm, hput⟩ | ⟨hm, hput⟩ | ⟨-, s, hput, -, hs, hbase, -⟩ <;> rw [withAttributes, hput] at hx
    · refine ⟨hx, hhref fun hk => ?_⟩
      have := Page.isElement_of_kind (p := put.page) (n := n) (by simp [hk])
      simp [hm] at this
    · exact ⟨hx, hhref fun _ => hm⟩
    · refine ⟨hs x hx, hhref fun hk => ?_⟩
      have hx : x ∈ s.contents := hx
      simp [hbase hk] at hx
  case listed =>
    intro l hl
    obtain ⟨hold, hn⟩ := list_notify (d := put) hl
    exact ⟨hold, hhref fun hk => hn (Page.isElement_of_kind (by simp [hk]))⟩

theorem keepsBase_withStates (hvalid : d.page.tree.Valid) {n : NodeId} {e new : Element}
    (he : d.page.tree.data? n = some (.element e)) (hname : new.name = e.name)
    (hattributes : new.attributes = e.attributes) : KeepsBase d (d.withStates n new) := by
  have hhref : (d.withElement n new).page.baseHref? = d.page.baseHref? := by
    refine baseHref?_withElement hvalid he hname fun _ => ?_
    have hold : d.page.element? n = some e := Tree.element?_of_data? he
    simp [Page.attr?, element?_withElement he, hold, Element.attr?, Element.attrIn?, hattributes]
  have hstep : Step (fun _ => True) d (d.withStates n new) := .states he hname hattributes
  exact ⟨fun m hm => kind_step hstep hm, rfl, fun x hx => ⟨hx, hhref⟩, fun l hl => ⟨hl, hhref⟩⟩

theorem keepsBase_push (hvalid : d.page.tree.Valid) {data : NodeData} (hdata : data ≠ .document) :
    KeepsBase d (d.push data) := by
  have hhref := (sameSheets_push hvalid hdata).base
  have hstep : Step (fun _ => True) d (d.push data) := .push hdata
  exact ⟨fun m hm => kind_step hstep hm, rfl, fun x hx => ⟨hx, hhref⟩, fun l hl => ⟨hl, hhref⟩⟩

/-- Nothing is kept, so nothing is recorded. -/
theorem records_of_forgotten (hcontents : d.sheets.contents = []) (hlist : d.sheets.list = none) :
    d.Records recent where
  kept n sheet hsheet := by simp [hcontents] at hsheet
  listed l hl := by simp [hlist] at hl

/-- Whatever becomes of a document, what is recorded is the base URL with a URL that is recent, if
the one before and the one afterwards are. -/
theorem Course.records (hvalid : d.page.tree.Valid) (henlisted : d.Enlisted)
    (hcoherent : d.Coherent) (h : d.Course op d') (hr : d.Records recent)
    (hrecent : recent d.page.url) : d'.Records recent := by
  have hread := (hr.readSheets hrecent henlisted).2
  cases h with
  | nothing => exact hr
  | push _ hdata => exact hr.keepsBase hcoherent (keepsBase_push hvalid hdata)
  | putIn hcan hroot =>
    exact hr.keepsBase hcoherent (moves_attach hvalid hcan hroot).keepsBase
  | @move p n old _ reference _ _ hold hcan hroot =>
    have hvalid' : (d.detach old n).page.tree.Valid := by
      rw [tree_detach]
      exact hvalid.unlink hold
    have hout := moves_detach hvalid hold
    exact hr.keepsBase hcoherent
      (hout.keepsBase.trans (moves_attach hvalid' hcan hroot).keepsBase)
  | takeOut hp => exact hr.keepsBase hcoherent (moves_detach hvalid hp).keepsBase
  | attributes _ he hsame =>
    exact hr.keepsBase hcoherent (keepsBase_withAttributes hvalid he hsame)
  | states _ he hname hattributes =>
    exact hr.keepsBase hcoherent (keepsBase_withStates hvalid he hname hattributes)
  | text hold hnew => exact hr.keepsBase hcoherent (moves_withText hvalid hold hnew).keepsBase
  | url url =>
    unfold withUrl
    dsimp only
    split
    next hurl =>
      exact hr.keepsBase hcoherent (keepsBase_of_page rfl hurl.symm (fun _ h => h) fun _ h => h)
    · exact records_of_forgotten rfl rfl
  | header | register | rebuild | cascade | selectNone | medium =>
    exact hr.keepsBase hcoherent (keepsBase_of_page rfl rfl (fun _ h => h) nofun)
  | loader => exact records_of_forgotten rfl rfl
  | @enableSet name _ =>
    refine hr.keepsBase hcoherent (keepsBase_of_page rfl rfl (fun x hx => ?_) nofun)
    have hcontents : (d.sheets.enable name).contents = d.sheets.contents := by
      unfold SheetStore.enable
      split <;> rfl
    exact hcontents ▸ hx
  | selectUnknown | readSheets => exact hread
  | selectKnown => exact ⟨hread.kept, nofun⟩
  | readStyle n q => exact (Reads.readStyle n q).records hr hrecent henlisted

/-- After the operations the document had the URL at some time, and in its URL nothing but the
fragment has changed since. -/
def HadUrl (d : Document) (os : List Operation) (url : Option Url) : Prop :=
  ∃ before since, os = before ++ since ∧ (d.run before).page.url = url ∧
    ∀ first, first <+: since →
      (d.run (before ++ first)).page.url.map Url.withoutFragment = url.map Url.withoutFragment

theorem hadUrl_self (os : List Operation) : d.HadUrl os (d.run os).page.url := by
  refine ⟨os, [], (List.append_nil os).symm, rfl, fun first hfirst => ?_⟩
  rw [List.prefix_nil.mp hfirst, List.append_nil]

theorem HadUrl.append {os : List Operation} {url : Option Url} (h : d.HadUrl os url)
    (hurl : url.map Url.withoutFragment =
      (d.run (os ++ [op])).page.url.map Url.withoutFragment) : d.HadUrl (os ++ [op]) url := by
  obtain ⟨before, since, rfl, hbefore, hsince⟩ := h
  refine ⟨before, since ++ [op], List.append_assoc .., hbefore, fun first hfirst => ?_⟩
  rcases List.prefix_concat_iff.mp hfirst with rfl | hfirst
  · rw [← List.append_assoc]
    exact hurl.symm
  · exact hsince first hfirst

theorem records_run (doctype : Option String) (o : Options) (os : List Operation) :
    ((create doctype o).run os).Records ((create doctype o).HadUrl os) := by
  induction os using List.reverseRecOn with
  | nil => exact records_of_forgotten rfl rfl
  | append_singleton os op ih =>
    obtain ⟨hvalid, henlisted, hcoherent⟩ := run_coherent doctype o os
    have hrun : (create doctype o).run (os ++ [op]) = ((create doctype o).run os).perform op := by
      simp [run]
    -- All URLs from before the operation are allowed, and what differs in more is dropped.
    have hcourse : ((create doctype o).run (os ++ [op])).Records
        ((create doctype o).HadUrl os) := by
      rw [hrun]
      have hop := perform_course hvalid.toSound op
      exact hop.records hvalid henlisted hcoherent ih (hadUrl_self os)
    constructor
    case kept =>
      intro n sheet hsheet hn
      exact (hcourse.kept n sheet hsheet hn).mono fun url hurl hhad => hhad.append hurl
    case listed =>
      intro l hl sheet hsheet horigin
      exact (hcourse.listed l hl sheet hsheet horigin).mono fun url hurl hhad => hhad.append hurl

/-- After any operations, every embedded sheet of the list records the base URL of the document but
for the fragment. It is the one with a URL that the document had since anything but the fragment
was changed; it is the base URL of now if a base element decides that, or if the fragment was not
changed since then either. -/
theorem embedded_base_run (doctype : Option String) (o : Options) (os : List Operation) :
    let d := (create doctype o).run os
    ∀ sheet ∈ d.readSheets.1.sheets, sheet.origin = .embedded →
      d.page.HasBase ((create doctype o).HadUrl os) sheet.contents.base ∧
      sheet.contents.base.map Url.withoutFragment = d.page.baseUrl.map Url.withoutFragment ∧
      (∀ href url, d.page.baseHref? = some href → Page.resolve? d.page.url href = some url →
        sheet.contents.base = d.page.baseUrl) ∧
      ((∀ url, (create doctype o).HadUrl os url → url = d.page.url) →
        sheet.contents.base = d.page.baseUrl) := by
  intro d sheet hsheet horigin
  have henlisted := (run_enlisted doctype o os).2
  have hbase : d.page.HasBase ((create doctype o).HadUrl os) sheet.contents.base :=
    ((records_run doctype o os).readSheets (hadUrl_self os) henlisted).1 sheet hsheet horigin
  refine ⟨hbase, hbase.withoutFragment, ?_, ?_⟩
  · intro href url hhref hurl
    exact hbase.of_baseHref? hhref hurl
  · intro hsame
    obtain ⟨url, hhad, -, hsheet⟩ := hbase
    rw [hsheet, hsame url hhad]

/-- The fragment changes, but a base element decides what the sheet records. -/
theorem embedded_base_run_href :
    let one : Url := ⟨"http", some ⟨"", "", "x.org", none⟩, .segments ["a"], none, some "one"⟩
    let o : Options := { Options.default with url := some one }
    let os : List Operation := [.createElement "div", .createElement "base", .createElement "style",
      .setAttribute 2 "href" "b/", .insertBefore 1 2 none, .insertBefore 1 3 none,
      .insertBefore Tree.root 1 none, .readSheets,
      .setUrl (some { one with fragment := some "two" })]
    ∃ sheet ∈ ((create none o).run os).readSheets.1.sheets, sheet.origin = .embedded ∧
      sheet.contents.base = ((create none o).run os).page.baseUrl := by
  intro one o os
  have hlist : ∃ sheet ∈ ((create none o).run os).readSheets.1.sheets,
      sheet.origin = .embedded := by decide +kernel
  have hhref : ((create none o).run os).page.baseHref? = some "b/" := by decide +kernel
  have hurl : (Page.resolve? ((create none o).run os).page.url "b/").isSome = true := by
    decide +kernel
  obtain ⟨sheet, hsheet, horigin⟩ := hlist
  obtain ⟨url, hurl⟩ := Option.isSome_iff_exists.mp hurl
  have hbase := embedded_base_run none o os sheet hsheet horigin
  exact ⟨sheet, hsheet, horigin, hbase.2.2.1 "b/" url hhref hurl⟩

/-- Without a base element a sheet that was read before records the fragment of then. -/
theorem embedded_base_stale :
    let one : Url := ⟨"http", some ⟨"", "", "x.org", none⟩, .segments ["a"], none, some "one"⟩
    let o : Options := { Options.default with url := some one }
    let os : List Operation := [.createElement "style", .insertBefore Tree.root 1 none,
      .readSheets, .setUrl (some { one with fragment := some "two" })]
    let d := (create none o).run os
    ¬ ∀ sheet ∈ d.readSheets.1.sheets, sheet.origin = .embedded →
      sheet.contents.base = d.page.baseUrl := by
  decide +kernel

end Document

end StyleTree
