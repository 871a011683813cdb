import StyleTree.Proofs.Sheets.Current
import StyleTree.Proofs.Sheets.Spared

/-!
# What the loader is asked for

What was loaded for a link is kept, and so is that nothing could be loaded, until the link changes
or its reference may lead to something else. `Releases` names the operations that can have that
effect. Between two requests for the same link one of them is carried out: reading, selecting sets
and all other changes of the document ask for no sheet a second time.
-/

namespace StyleTree

namespace SheetStore

variable {s s' s'' : SheetStore} {p : Page} {loader : Loader} {o : SheetOrigin} {n : NodeId}
  {asked asked' : List (NodeId × Url)}

/-! ## Loading -/

/-- It is kept what was loaded for the element, or that nothing could be loaded for it. -/
def Remembers (s : SheetStore) (n : NodeId) : Prop :=
  ∃ x, (n, x) ∈ s.contents

/-- The store `s` becomes `s'` by loading, where the loader is asked for `asked`: on behalf of links
of which nothing is kept, once for each. -/
structure Loads (p : Page) (s s' : SheetStore) (asked : List (NodeId × Url)) : Prop where
  requests : s'.requests = s.requests ++ asked
  keeps : ∀ n, s.Remembers n → s'.Remembers n
  links : ∀ n ∈ asked.map (·.1), p.sheetOrigin? n = some .linked
  fresh : ∀ n ∈ asked.map (·.1), ¬ s.Remembers n
  learnt : ∀ n ∈ asked.map (·.1), s'.Remembers n
  once : (asked.map (·.1)).Nodup

namespace Loads

theorem refl (p : Page) (s : SheetStore) : Loads p s s [] where
  requests := (List.append_nil _).symm
  keeps _ h := h
  links := by simp
  fresh := by simp
  learnt := by simp
  once := .nil

/-- What is loaded first is remembered afterwards, so it is not loaded again. -/
theorem trans (h : Loads p s s' asked) (h' : Loads p s' s'' asked') :
    Loads p s s'' (asked ++ asked') where
  requests := by rw [h'.requests, h.requests, List.append_assoc]
  keeps n hn := h'.keeps n (h.keeps n hn)
  links n hn := by
    rw [List.map_append, List.mem_append] at hn
    exact hn.elim (h.links n) (h'.links n)
  fresh n hn := by
    rw [List.map_append, List.mem_append] at hn
    rcases hn with hn | hn
    · exact h.fresh n hn
    · exact fun hs => h'.fresh n hn (h.keeps n hs)
  learnt n hn := by
    rw [List.map_append, List.mem_append] at hn
    rcases hn with hn | hn
    · exact h'.keeps n (h.learnt n hn)
    · exact h'.learnt n hn
  once := by
    rw [List.map_append, List.nodup_append']
    refine ⟨h.once, h'.once, ?_⟩
    intro n hn hn'
    exact h'.fresh n hn' (h.learnt n hn)

/-- The rest of the store does not count. -/
theorem congr {t : SheetStore} (h : Loads p s s' asked) (hrequests : t.requests = s'.requests)
    (hcontents : t.contents = s'.contents) : Loads p s t asked where
  requests := hrequests.trans h.requests
  keeps n hn := by
    rw [Remembers, hcontents]
    exact h.keeps n hn
  links := h.links
  fresh := h.fresh
  learnt n hn := by
    rw [Remembers, hcontents]
    exact h.learnt n hn
  once := h.once

end Loads

theorem loads_obtain? (loader : Loader) (ho : p.sheetOrigin? n = some o) :
    ∃ asked, Loads p s (s.obtain? p loader n o).2 asked := by
  unfold SheetStore.obtain?
  cases hfind : s.contents.find? (·.1 == n) with
  | some kept => exact ⟨[], .refl p s⟩
  | none =>
    refine ⟨(load p loader n o).2.toList.map (n, ·), rfl, ?_, ?_, ?_, ?_, ?_⟩
    · rintro m ⟨x, hx⟩
      exact ⟨x, List.mem_cons_of_mem _ hx⟩
    · -- Only for links the loader is asked for anything.
      intro m hm
      cases o with
      | embedded => simp [load] at hm
      | linked =>
        obtain ⟨url, -, rfl⟩ := by simpa using hm
        exact ho
    · intro m hm
      obtain ⟨url, -, rfl⟩ := by simpa using hm
      rintro ⟨x, hx⟩
      simpa using List.find?_eq_none.mp hfind _ hx
    · intro m hm
      obtain ⟨url, -, rfl⟩ := by simpa using hm
      exact ⟨_, List.mem_cons_self⟩
    · cases (load p loader n o).2 <;> simp

theorem loads_entry? (loader : Loader) (ho : p.sheetOrigin? n = some o) :
    ∃ asked, Loads p s (s.entry? p loader o n).2 asked := by
  unfold SheetStore.entry?
  split
  · exact loads_obtain? loader ho
  · exact ⟨[], .refl p s⟩

theorem loads_entries (loader : Loader) {list : List NodeId}
    (ho : ∀ n ∈ list, p.sheetOrigin? n = some o) :
    ∃ asked, Loads p s (entries p loader o s list).2 asked := by
  induction list generalizing s with
  | nil => exact ⟨[], .refl p s⟩
  | cons n list ih =>
    obtain ⟨asked, hfirst⟩ := loads_entry? (s := s) loader (ho n List.mem_cons_self)
    obtain ⟨asked', hrest⟩ := ih (s := (s.entry? p loader o n).2) fun m hm =>
      ho m (List.mem_cons_of_mem n hm)
    exact ⟨asked ++ asked', hfirst.trans hrest⟩

theorem loads_build (loader : Loader) (hs : ∀ o, ∀ n ∈ s.definers o, p.sheetOrigin? n = some o) :
    ∃ asked, Loads p s (s.build p loader).2 asked := by
  obtain ⟨asked, hlinked⟩ := loads_entries (s := s) loader (hs .linked)
  have hembedded : (entries p loader .linked s s.linked).2.embedded = s.embedded :=
    definers_entries s .embedded p loader .linked s.linked
  obtain ⟨asked', hrest⟩ := loads_entries loader (hs .embedded)
    (s := (entries p loader .linked s s.linked).2)
  refine ⟨asked ++ asked', ?_⟩
  unfold SheetStore.build
  dsimp only
  rw [hembedded]
  exact hlinked.trans hrest

end SheetStore

namespace Document

open SheetStore

variable {d d' : Document} {c : Change} {n m : NodeId} {op : Operation}

/-! ## Reading -/

theorem loads_readSheets (henlisted : d.Enlisted) :
    ∃ asked, Loads d.page d.sheets d.readSheets.2.sheets asked := by
  cases hlist : d.sheets.list with
  | some list =>
    rw [readSheets_of_list hlist]
    exact ⟨[], .refl _ _⟩
  | none =>
    have hdefine : ∀ o, ∀ n ∈ d.sheets.definers o, d.page.sheetOrigin? n = some o :=
      fun o n hn => (henlisted.mem o n List.not_mem_nil).mp hn
    obtain ⟨asked, hbuild⟩ := loads_build d.loader hdefine
    refine ⟨asked, hbuild.congr ?_ ?_⟩ <;> simp [Document.readSheets, hlist]

theorem Reads.loads (h : Reads d d') (henlisted : d.Enlisted) :
    ∃ asked, Loads d.page d.sheets d'.sheets asked := by
  cases h with
  | styles cache => exact ⟨[], .refl _ _⟩
  | list cache => exact loads_readSheets henlisted

/-! ## Changes -/

theorem requests_notify : (notify c d n).sheets.requests = d.sheets.requests := by
  have henlist : ∀ (s : SheetStore) (o : Option SheetOrigin),
      (s.enlist d.page.tree n o).requests = s.requests := by
    intro s o
    cases o with
    | none => rfl
    | some o =>
      simp only [enlist]
      split
      · rfl
      · cases o <;> rfl
  unfold notify
  split
  · cases d.page.staleness n c <;> cases d.page.kind n <;> first | rfl | exact henlist _ _
  · rfl

theorem requests_notifyAll (nodes : List NodeId) :
    (d.notifyAll c nodes).sheets.requests = d.sheets.requests := by
  induction nodes generalizing d with
  | nil => rfl
  | cons n nodes ih => exact ih.trans requests_notify

/-- An element is remembered unless the change concerns itself or a base element. -/
theorem remembers_notify (hr : d.sheets.Remembers n)
    (hself : m = n → d.page.affectsSheets m c = false)
    (hbase : d.page.kind m = .base → d.page.affectsSheets m c = false) :
    (notify c d m).sheets.Remembers n := by
  by_cases helement : d.page.isElement m = true
  · by_cases haffects : d.page.affectsSheets m c = true
    · by_cases hkind : ∃ o : SheetOrigin, d.page.kind m = o.kind
      · obtain ⟨o, ho⟩ := hkind
        have hne : n ≠ m := by
          rintro rfl
          simp [hself rfl] at haffects
        obtain ⟨x, hx⟩ := hr
        refine ⟨x, ?_⟩
        rw [notify_of_kind ho haffects]
        show (n, x) ∈ ((d.sheets.forget m).enlist _ _ _).contents
        rw [contents_enlist]
        exact mem_contents_forget.mpr ⟨hx, hne⟩
      · have hnot : d.page.kind m ≠ .base := by
          intro h
          simp [hbase h] at haffects
        rw [notify_of_other helement haffects (not_exists.mp hkind) hnot]
        exact hr
    · rw [notify_of_not_affects helement (Bool.eq_false_iff.mpr haffects)]
      exact hr
  · rw [notify_of_not_element (Bool.eq_false_iff.mpr helement)]
    exact hr

theorem remembers_notifyAll {nodes : List NodeId} (hr : d.sheets.Remembers n)
    (hself : n ∈ nodes → d.page.affectsSheets n c = false)
    (hbase : ∀ m ∈ nodes, d.page.kind m = .base → d.page.affectsSheets m c = false) :
    (d.notifyAll c nodes).sheets.Remembers n := by
  induction nodes generalizing d with
  | nil => exact hr
  | cons m nodes ih =>
    have hfirst : (notify c d m).sheets.Remembers n := by
      refine remembers_notify hr ?_ (hbase m List.mem_cons_self)
      rintro rfl
      exact hself List.mem_cons_self
    refine ih hfirst ?_ ?_ <;> rw [page_notify]
    · exact fun hn => hself (List.mem_cons_of_mem m hn)
    · exact fun m' hm' => hbase m' (List.mem_cons_of_mem m hm')

/-- Neither the link nor a base element is among the nodes that are moved. -/
theorem remembers_moved {moved : List NodeId} {p : NodeId} (hr : d.sheets.Remembers n)
    (hlink : d.page.kind n = .link) (hmoved : ∀ m ∈ moved, m ≠ n ∧ d.page.kind m ≠ .base) :
    ((d.notifyAll c moved).notifyAll .children [p]).sheets.Remembers n := by
  have hchildren : ∀ m, d.page.kind m ≠ .style → d.page.affectsSheets m .children = false := by
    intro m hm
    rw [Page.affectsSheets_children]
    exact decide_eq_false hm
  have hfirst : (d.notifyAll c moved).sheets.Remembers n := by
    refine remembers_notifyAll hr ?_ ?_
    · intro hn
      exact absurd rfl (hmoved n hn).1
    · intro m hm hbase
      exact absurd hbase (hmoved m hm).2
  refine remembers_notifyAll hfirst ?_ ?_ <;> rw [page_notifyAll]
  · intro _
    exact hchildren n (by simp [hlink])
  · intro m _ hbase
    exact hchildren m (by simp [hbase])

theorem remembers_detach (hvalid : d.page.tree.Valid) {p x : NodeId}
    (hp : d.page.tree.parent? x = some p) (hr : d.sheets.Remembers n)
    (hlink : d.page.kind n = .link)
    (hmoved : ∀ m ∈ d.page.tree.preorder x, m ≠ n ∧ d.page.kind m ≠ .base) :
    (d.detach p x).sheets.Remembers n := by
  obtain ⟨xs, ys, g⟩ := hvalid.graft_unlink hp
  let cut : Document := { d.withTree (d.page.tree.unlink x) with
    cache := ((d.page.tree.unlink x).preorder x).foldl StyleCache.forget d.cache }
  have hkind : ∀ m, cut.page.kind m = d.page.kind m := fun m =>
    Page.kind_congr (Tree.element?_unlink : cut.page.element? m = d.page.element? m)
  refine remembers_moved (d := cut) hr (by rw [hkind, hlink]) fun m hm => ?_
  rw [hkind]
  exact hmoved m (g.preorder_self ▸ hm)

theorem remembers_attach (hvalid : d.page.tree.Valid) {p x : NodeId} {before : Option NodeId}
    {parent child : NodeData} (hcan : CanInsert d.page.tree p x before parent child)
    (hroot : d.page.tree.parent? x = none) (hr : d.sheets.Remembers n)
    (hlink : d.page.kind n = .link)
    (hmoved : ∀ m ∈ d.page.tree.preorder x, m ≠ n ∧ d.page.kind m ≠ .base) :
    (d.attach p x before).sheets.Remembers n := by
  obtain ⟨xs, ys, rfl, i⟩ := hcan.insertable hvalid.toSound hroot
  have g := i.graft hvalid.toSound
  let put : Document := d.withTree (d.page.tree.link p x ys.head?)
  have hkind : ∀ m, put.page.kind m = d.page.kind m := fun m =>
    Page.kind_congr (Tree.element?_link : put.page.element? m = d.page.element? m)
  refine remembers_moved (d := put) hr (by rw [hkind, hlink]) fun m hm => ?_
  rw [hkind]
  exact hmoved m (g.preorder_self ▸ hm)

/-! ## Operations -/

/-- The operation is carried out. -/
def Allows (d : Document) (op : Operation) : Prop :=
  ∃ made d', op.edit d = .ok made d'

/-- The operation may change where the sheet of the link `n` comes from. -/
inductive Releases (d : Document) (n : NodeId) : Operation → Prop where
  | setLoader (loader : Loader) : Releases d n (.setLoader loader)
  | setUrl {url : Option Url}
    (h : url.map Url.withoutFragment ≠ d.page.url.map Url.withoutFragment) :
    Releases d n (.setUrl url)
  /-- A subtree with the link or with a base element is put in or moved. -/
  | insertBefore {p x m : NodeId} {before : Option NodeId}
    (hdone : d.Allows (.insertBefore p x before)) (hm : m ∈ d.page.tree.preorder x)
    (h : m = n ∨ d.page.kind m = .base) : Releases d n (.insertBefore p x before)
  | removeChild {p x m : NodeId} (hdone : d.Allows (.removeChild p x))
    (hm : m ∈ d.page.tree.preorder x) (h : m = n ∨ d.page.kind m = .base) :
    Releases d n (.removeChild p x)
  | ofLink {op : Operation} {changed : Name} {name : String} (hdone : d.Allows op)
    (h : op.changedAttribute? d.page = some (n, changed))
    (hname : name ∈ ["href", "rel", "media", "title", "type", "disabled", "style"])
    (hchanged : changed.isPlain name = true) : Releases d n op
  | ofBase {op : Operation} {m : NodeId} {changed : Name} {name : String} (hdone : d.Allows op)
    (h : op.changedAttribute? d.page = some (m, changed)) (hm : d.page.kind m = .base)
    (hname : name ∈ ["href", "style"]) (hchanged : changed.isPlain name = true) : Releases d n op

/-- Every operation keeps the kinds of the elements that there are. -/
theorem kind_step {allowed : Cascade → Prop} (s : Step allowed d d')
    (hn : d.page.kind n ≠ .other) : d'.page.kind n = d.page.kind n := by
  have hwith : ∀ {m : NodeId} {e new : Element}, d.page.tree.data? m = some (.element e) →
      new.name = e.name → (d.withElement m new).page.kind n = d.page.kind n := by
    intro m e new he hname
    by_cases hm : n = m
    · subst hm
      exact kind_withElement he hname
    · exact Page.kind_congr (element?_withElement_of_ne he hm)
  cases s with
  | push =>
    obtain ⟨e, he⟩ := Page.isElement_iff.mp (Page.isElement_of_kind hn)
    obtain ⟨data, hdata, -⟩ := Option.bind_eq_some_iff.mp he
    refine Page.kind_congr ?_
    rw [Page.element?, tree_push, Tree.element?_push, if_neg]
    · rfl
    · rintro rfl
      simpa [Tree.not_has_fresh] using Tree.has_of_data? hdata
  | detach =>
    refine Page.kind_congr ?_
    rw [Page.element?, tree_detach]
    exact Tree.element?_unlink
  | attach =>
    refine Page.kind_congr ?_
    rw [Page.element?, tree_attach]
    exact Tree.element?_link
  | attributes he =>
    rw [withAttributes, page_notify]
    exact hwith he rfl
  | states he hname => exact hwith he hname
  | text hold hnew =>
    rw [withText, page_notifyAll]
    exact Page.kind_congr (Tree.element?_setData_of_withText? hold hnew n)
  | url =>
    unfold withUrl
    split <;> rfl
  | header | medium | register | rebuild | cascade | loader | selectSet | enableSet => rfl
  | readSheets => rw [page_readSheets]
  | readStyle => rw [page_readStyle]

theorem kind_perform (hsound : d.page.tree.Sound) (hn : d.page.kind n ≠ .other) (op : Operation) :
    (d.perform op).page.kind n = d.page.kind n := by
  have hsteps : Relation.ReflTransGen (Step fun _ => True) d (d.perform op) :=
    perform_steps hsound op fun _ _ => trivial
  generalize d.perform op = d' at hsteps
  induction hsteps with
  | refl => rfl
  | tail _ hlast ih => rw [kind_step hlast (by rwa [ih]), ih]

/-- A link is remembered after every operation that does not release it. -/
theorem Course.remembers (hvalid : d.page.tree.Valid) (henlisted : d.Enlisted)
    (h : d.Course op d') (hdone : d.Allows op) (hr : d.sheets.Remembers n)
    (hlink : d.page.kind n = .link) (hnot : ¬ d.Releases n op) : d'.sheets.Remembers n := by
  have hread : d.readSheets.2.sheets.Remembers n := by
    obtain ⟨asked, hloads⟩ := loads_readSheets henlisted
    exact hloads.keeps n hr
  cases h with
  | nothing => exact hr
  | push => exact hr
  | @putIn p x before _ _ hcan hroot =>
    refine remembers_attach hvalid hcan hroot hr hlink fun m hm => ?_
    exact not_or.mp fun h => hnot (.insertBefore hdone hm h)
  | @move p x old before _ _ _ hold hcan hroot =>
    have hmoved : ∀ m ∈ d.page.tree.preorder x, m ≠ n ∧ d.page.kind m ≠ .base := by
      intro m hm
      exact not_or.mp fun h => hnot (.insertBefore hdone hm h)
    have hvalid' : (d.detach old x).page.tree.Valid := by
      rw [tree_detach]
      exact hvalid.unlink hold
    have hkind : ∀ m, (d.detach old x).page.kind m = d.page.kind m := by
      intro m
      refine Page.kind_congr ?_
      rw [Page.element?, tree_detach]
      exact Tree.element?_unlink
    obtain ⟨xs, ys, g⟩ := hvalid.graft_unlink hold
    refine remembers_attach hvalid' hcan hroot (remembers_detach hvalid hold hr hlink hmoved)
      (by rw [hkind, hlink]) fun m hm => ?_
    rw [hkind]
    rw [tree_detach, ← g.preorder_self] at hm
    exact hmoved m hm
  | takeOut hp =>
    refine remembers_detach hvalid hp hr hlink fun m hm => ?_
    exact not_or.mp fun h => hnot (.removeChild hdone hm h)
  | @attributes _ m e as changed ho he hsame =>
    let put : Document := d.withElement m { e with attributes := as }
    have hkind : put.page.kind m = d.page.kind m := kind_withElement he rfl
    -- What the attribute matters for is what the operation would release the link by.
    refine remembers_notify (d := put) hr ?_ ?_
    · rintro rfl
      refine Bool.eq_false_iff.mpr fun haffects => ?_
      simp only [Page.affectsSheets, hkind, hlink, Change.isOf, Change.isMove, Bool.or_eq_true,
        List.any_eq_true, Bool.false_eq_true, false_or] at haffects
      rcases haffects with ⟨name, hname, hplain⟩ | ⟨name, hname, hplain⟩
      · exact hnot (.ofLink hdone ho (by simp_all) hplain)
      · refine hnot (.ofLink hdone ho ?_ hplain)
        exact List.mem_append_left ["style"] hname
    · intro hbase
      refine Bool.eq_false_iff.mpr fun haffects => ?_
      rw [hkind] at hbase
      simp only [Page.affectsSheets, hkind, hbase, Change.isOf, Change.isMove, Bool.or_eq_true,
        List.any_eq_true, Bool.false_eq_true, false_or] at haffects
      rcases haffects with ⟨name, hname, hplain⟩ | ⟨name, hname, hplain⟩
      · exact hnot (.ofBase hdone ho hbase (by simp_all) hplain)
      · exact hnot (.ofBase hdone ho hbase (by simp_all) hplain)
  | states => exact hr
  | @text x old new _ hold hnew =>
    have hkind : (d.withTree (d.page.tree.setData x new)).page.kind n = d.page.kind n :=
      Page.kind_congr (Tree.element?_setData_of_withText? hold hnew n)
    refine remembers_notifyAll (d := d.withTree (d.page.tree.setData x new)) hr ?_ ?_
    · intro _
      rw [Page.affectsSheets_children, hkind, hlink]
      rfl
    · intro m _ hbase
      rw [Page.affectsSheets_children, hbase]
      rfl
  | url url =>
    unfold withUrl
    dsimp only
    split
    · exact hr
    · next hne => exact absurd (.setUrl (Ne.symm hne)) hnot
  | loader loader => exact absurd (.setLoader loader) hnot
  | header | medium | register | rebuild | cascade | selectNone => exact hr
  | @enableSet name _ =>
    show (d.sheets.enable name).Remembers n
    unfold SheetStore.enable
    split <;> exact hr
  | selectUnknown | readSheets | selectKnown => exact hread
  | readStyle x q =>
    obtain ⟨asked, hloads⟩ := (Reads.readStyle x q).loads henlisted
    exact hloads.keeps n hr

/-! ## Requests of operations -/

/-- What the loader is asked for in the operation, and on behalf of which elements. -/
def asked (d : Document) (op : Operation) : List (NodeId × Url) :=
  (d.perform op).sheets.requests.drop d.sheets.requests.length

/-- An operation asks for nothing, or loads. -/
theorem Course.loads (henlisted : d.Enlisted) (h : d.Course op d') :
    d'.sheets.requests = d.sheets.requests ∨
      ∃ asked, Loads d.page d.sheets d'.sheets asked := by
  have hread := loads_readSheets henlisted
  cases h with
  | nothing => exact .inl rfl
  | push => exact .inl rfl
  | putIn => exact .inl ((requests_notifyAll _).trans (requests_notifyAll _))
  | @move p x old _ reference _ _ _ hcan hroot =>
    have hout : (d.detach old x).sheets.requests = d.sheets.requests :=
      (requests_notifyAll _).trans (requests_notifyAll _)
    have hin : ((d.detach old x).attach p x reference).sheets.requests =
        (d.detach old x).sheets.requests := (requests_notifyAll _).trans (requests_notifyAll _)
    exact .inl (hin.trans hout)
  | takeOut => exact .inl ((requests_notifyAll _).trans (requests_notifyAll _))
  | attributes => exact .inl requests_notify
  | states => exact .inl rfl
  | text => exact .inl (requests_notifyAll _)
  | url =>
    unfold withUrl
    dsimp only
    split <;> exact .inl rfl
  | header | medium | register | rebuild | cascade | loader | selectNone => exact .inl rfl
  | @enableSet name _ =>
    refine .inl ?_
    show (d.sheets.enable name).requests = _
    unfold SheetStore.enable
    split <;> rfl
  | selectUnknown | readSheets => exact .inr hread
  | selectKnown =>
    obtain ⟨asked, hloads⟩ := hread
    exact .inr ⟨asked, hloads.congr rfl rfl⟩
  | readStyle x q => exact .inr ((Reads.readStyle x q).loads henlisted)

/-- What an operation asks for is put at the end of the log. It concerns links of which nothing is
kept before and something is kept afterwards, each of them once. -/
theorem asked_spec (hvalid : d.page.tree.Valid) (henlisted : d.Enlisted) (op : Operation) :
    (d.perform op).sheets.requests = d.sheets.requests ++ d.asked op ∧
      ((d.asked op).map (·.1)).Nodup ∧
      ∀ n ∈ (d.asked op).map (·.1), d.page.kind n = .link ∧ ¬ d.sheets.Remembers n ∧
        (d.perform op).sheets.Remembers n := by
  unfold asked
  rcases (perform_course hvalid.toSound op).loads henlisted with hsame | ⟨asked, hloads⟩
  · simp [hsame]
  · have hasked : (d.perform op).sheets.requests.drop d.sheets.requests.length = asked := by
      rw [hloads.requests, List.drop_left]
    rw [hasked]
    refine ⟨hloads.requests, hloads.once, fun n hn => ?_⟩
    exact ⟨Page.kind_of_sheetOrigin? (hloads.links n hn), hloads.fresh n hn, hloads.learnt n hn⟩

theorem remembers_perform (hvalid : d.page.tree.Valid) (henlisted : d.Enlisted)
    (hr : d.sheets.Remembers n) (hlink : d.page.kind n = .link) (hnot : ¬ d.Releases n op) :
    (d.perform op).sheets.Remembers n := by
  cases hrun : op.edit d with
  | ok made d' =>
    exact (perform_course hvalid.toSound op).remembers hvalid henlisted ⟨made, d', hrun⟩ hr hlink
      hnot
  | error e d' =>
    have hsame : d.perform op = d := by
      rw [perform, Edit.after, hrun]
      exact (leads_course hvalid.toSound op).refused hrun
    rw [hsame]
    exact hr

/-- A link is remembered for as long as no operation releases it. -/
theorem remembers_run {os : List Operation} (hvalid : d.page.tree.Valid) (henlisted : d.Enlisted)
    (hr : d.sheets.Remembers n) (hlink : d.page.kind n = .link)
    (hnot : ∀ xs op ys, os = xs ++ op :: ys → ¬ (d.run xs).Releases n op) :
    (d.run os).sheets.Remembers n := by
  induction os generalizing d with
  | nil => exact hr
  | cons op os ih =>
    have hfirst : ¬ d.Releases n op := hnot [] op os rfl
    have hinv : (d.perform op).page.tree.Valid ∧ (d.perform op).Enlisted :=
      run_valid_induction (fun _ => True) (fun _ _ => step_enlisted) [op] (fun _ _ => trivial)
        hvalid henlisted
    refine ih hinv.1 hinv.2 (remembers_perform hvalid henlisted hr hlink hfirst) ?_ ?_
    · rw [kind_perform hvalid.toSound (by simp [hlink]), hlink]
    · intro xs o ys hos
      exact hnot (op :: xs) o ys (by rw [hos, List.cons_append])

/-- After any operations, what an operation asks of the loader is put at the end of the log, with no
link twice; and if the loader is asked twice on behalf of a link, an operation between the two
requests releases the link. -/
theorem requests_run (doctype : Option String) (o : Options) (os : List Operation) :
    let d := (create doctype o).run os
    (∀ op, (d.perform op).sheets.requests = d.sheets.requests ++ d.asked op ∧
      ((d.asked op).map (·.1)).Nodup) ∧
    ∀ first between second n, n ∈ (d.asked first).map (·.1) →
      n ∈ (((d.perform first).run between).asked second).map (·.1) →
      ∃ xs op ys, between = xs ++ op :: ys ∧ ((d.perform first).run xs).Releases n op := by
  intro d
  obtain ⟨hvalid, henlisted⟩ : d.page.tree.Valid ∧ d.Enlisted := run_enlisted doctype o os
  have hrun : ∀ between, (d.run between).page.tree.Valid ∧ (d.run between).Enlisted := by
    intro between
    exact run_valid_induction (fun _ => True) (fun _ _ => step_enlisted) between
      (fun _ _ => trivial) hvalid henlisted
  refine ⟨fun op => ?_, fun first between second n hfirst hsecond => ?_⟩
  · obtain ⟨hlog, honce, -⟩ := asked_spec hvalid henlisted op
    exact ⟨hlog, honce⟩
  · by_contra hnone
    obtain ⟨hlink, -, hr⟩ := (asked_spec hvalid henlisted first).2.2 n hfirst
    obtain ⟨hvalid₁, henlisted₁⟩ := hrun [first]
    obtain ⟨hvalid₂, henlisted₂⟩ := hrun (first :: between)
    have hlink₁ : (d.perform first).page.kind n = .link := by
      rw [kind_perform hvalid.toSound (by simp [hlink]), hlink]
    have hkept : ((d.perform first).run between).sheets.Remembers n := by
      refine remembers_run hvalid₁ henlisted₁ hr hlink₁ fun xs op ys hbetween hreleases => ?_
      exact hnone ⟨xs, op, ys, hbetween, hreleases⟩
    have hfresh := (asked_spec hvalid₂ henlisted₂ second).2.2 n hsecond
    exact hfresh.2.1 hkept

/-- A link is loaded again after it was given another reference; that everything was made stale
before would not have been enough. -/
theorem requests_run_href :
    let d := (create none .default).run [.createElement "link",
      .setAttribute 1 "rel" "stylesheet", .setAttribute 1 "href" "data:,",
      .insertBefore Tree.root 1 none]
    let between := [Operation.rebuild, .setAttribute 1 "href" "data:,a"]
    1 ∈ (d.asked .readSheets).map (·.1) ∧
      1 ∈ (((d.perform .readSheets).run between).asked .readSheets).map (·.1) ∧
      ∃ xs op ys, between = xs ++ op :: ys ∧ ((d.perform .readSheets).run xs).Releases 1 op := by
  intro d between
  have hfirst : 1 ∈ (d.asked .readSheets).map (·.1) := by decide +kernel
  have hsecond : 1 ∈ (((d.perform .readSheets).run between).asked .readSheets).map (·.1) := by
    decide +kernel
  exact ⟨hfirst, hsecond,
    (requests_run none .default _).2 .readSheets between .readSheets 1 hfirst hsecond⟩

end Document

end StyleTree
