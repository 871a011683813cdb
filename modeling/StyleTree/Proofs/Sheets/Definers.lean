import StyleTree.Proofs.Style.Elements
import StyleTree.Proofs.Tree.Order

/-!
# Elements that define style sheets

The store lists the links and the style elements that define a sheet, each list in tree order. The
lists are never read off the tree: elements are put in and struck out one by one, as changes are
made known. `Enlists` says what the lists hold while some changes are still to be made known; when
none is, they hold exactly the elements that define a sheet.
-/

namespace StyleTree

/-! ## The place in tree order -/

namespace SheetStore

section InsertInOrder

variable {t : Tree} {n : NodeId} {xs ys : List NodeId}

/-- The search finds the place where the list is cut into what comes before `n` and what does
not. -/
theorem placeBetween_eq (hxs : ∀ x ∈ xs, t.compare x n = .lt) (hys : ∀ y ∈ ys, t.compare y n ≠ .lt)
    {low high : Nat} (hlow : low ≤ xs.length) (hhigh : xs.length ≤ high)
    (hlen : high ≤ (xs ++ ys).length) : placeBetween t n (xs ++ ys) low high = xs.length := by
  induction low, high using placeBetween.induct t n (xs ++ ys) with
  | case1 low high hlt middle m hm hcmp ih =>
    have hmiddle : middle < xs.length := by
      by_contra hge
      rw [List.getElem?_append_right (Nat.le_of_not_lt hge)] at hm
      exact hys m (List.mem_of_getElem? hm) hcmp
    rw [placeBetween, dif_pos hlt]
    simp only [middle] at hm hmiddle ih
    simp only [hm, hcmp, if_true]
    exact ih hmiddle hhigh hlen
  | case2 low high hlt middle m hm hcmp ih =>
    have hmiddle : xs.length ≤ middle := by
      by_contra hge
      rw [List.getElem?_append_left (Nat.lt_of_not_le hge)] at hm
      exact hcmp (hxs m (List.mem_of_getElem? hm))
    rw [placeBetween, dif_pos hlt]
    simp only [middle] at hm hmiddle ih
    simp only [hm, hcmp, if_false]
    exact ih hlow hmiddle (by omega)
  | case3 low high hlt middle hm =>
    simp only [middle, List.getElem?_eq_none_iff] at hm
    omega
  | case4 low high hlt =>
    rw [placeBetween, dif_neg hlt]
    omega

theorem insertInOrder_append (hxs : ∀ x ∈ xs, t.compare x n = .lt)
    (hys : ∀ y ∈ ys, t.compare y n ≠ .lt) :
    insertInOrder t n (xs ++ ys) = xs ++ n :: ys := by
  rw [insertInOrder, placeBetween_eq hxs hys (Nat.zero_le _) (by simp) (Nat.le_refl _)]
  clear hxs
  induction xs with
  | nil => rfl
  | cons x xs ih => simpa using ih

/-- A node that is put into a part of a sorted list comes where the whole list has it. -/
theorem insertInOrder_sublist {list order : List NodeId}
    (hsorted : order.Pairwise fun a b => t.compare a b = .lt ∧ t.compare b a = .gt)
    (hlist : list.Sublist order) (hn : n ∈ order) (hnew : n ∉ list) :
    (insertInOrder t n list).Sublist order ∧
      ∀ m, m ∈ insertInOrder t n list ↔ m = n ∨ m ∈ list := by
  obtain ⟨before, after, rfl⟩ := List.append_of_mem hn
  obtain ⟨xs, ys, rfl, hxs, hys⟩ := List.sublist_append_iff.mp hlist
  have hys : ys.Sublist after := by
    rcases List.sublist_cons_iff.mp hys with hys | ⟨r, rfl, -⟩
    · exact hys
    · simp at hnew
  obtain ⟨-, hafter, hbefore⟩ := List.pairwise_append.mp hsorted
  have hlt : ∀ x ∈ xs, t.compare x n = .lt := fun x hx =>
    (hbefore x (hxs.subset hx) n List.mem_cons_self).1
  have hgt : ∀ y ∈ ys, t.compare y n ≠ .lt := by
    intro y hy
    rw [((List.pairwise_cons.mp hafter).1 y (hys.subset hy)).2]
    decide
  rw [insertInOrder_append hlt hgt]
  refine ⟨hxs.append (hys.cons_cons n), fun m => ?_⟩
  simp only [List.mem_append, List.mem_cons]
  tauto

end InsertInOrder

/-! ## What the lists are after a change -/

variable (s : SheetStore) (t : Tree) (n : NodeId) (o : SheetOrigin)

@[simp] theorem definers_forget : (s.forget n).definers o = s.definers o := by
  cases o <;> rfl

@[simp] theorem definers_dropList : s.dropList.definers o = s.definers o := by
  cases o <;> rfl

theorem definers_strike : (s.strike n).definers o = (s.definers o).filter (· != n) := by
  cases o <;> rfl

theorem definers_withDefiners (o' : SheetOrigin) (list : List NodeId) :
    (s.withDefiners o' list).definers o = if o = o' then list else s.definers o := by
  cases o <;> cases o' <;> rfl

theorem definers_enlist_none : (s.enlist t n none).definers o = (s.definers o).filter (· != n) :=
  s.definers_strike n o

theorem definers_enlist_some (o' : SheetOrigin) :
    (s.enlist t n (some o')).definers o =
      if n ∈ s.definers o' then s.definers o
      else if o = o' then insertInOrder t n ((s.definers o).filter (· != n))
      else (s.definers o).filter (· != n) := by
  unfold enlist
  simp only [List.contains_iff_mem]
  split
  · rfl
  · rw [definers_withDefiners, definers_strike, definers_strike]
    split
    · subst o'
      rfl
    · rfl

/-! ### Building -/

variable (p : Page) (loader : Loader) (o' : SheetOrigin)

theorem definers_obtain? : (s.obtain? p loader n o').2.definers o = s.definers o := by
  unfold obtain?
  split
  · rfl
  · cases o <;> rfl

theorem definers_entry? : (s.entry? p loader o' n).2.definers o = s.definers o := by
  unfold entry?
  split
  · exact s.definers_obtain? n o p loader o'
  · rfl

theorem definers_entries (list : List NodeId) :
    (entries p loader o' s list).2.definers o = s.definers o := by
  induction list generalizing s with
  | nil => rfl
  | cons n list ih => exact (ih _).trans (s.definers_entry? n o p loader o')

theorem definers_build : (s.build p loader).2.definers o = s.definers o :=
  (definers_entries _ o p loader .embedded _).trans (s.definers_entries o p loader .linked _)

end SheetStore

/-! ## Elements that define a sheet -/

/-- The kind of the elements that define sheets of the origin. -/
def SheetOrigin.kind : SheetOrigin → ElementKind
  | linked => .link
  | embedded => .style

theorem SheetOrigin.kind_ne_other (o : SheetOrigin) : o.kind ≠ .other := by
  cases o <;> decide

/-- The attributes of an element that decide its entry. -/
def SheetOrigin.attributes : SheetOrigin → List String
  | linked => ["href", "rel", "media", "title", "disabled"]
  | embedded => ["media", "title"]

namespace Page

variable {p q : Page} {n : NodeId} {o : SheetOrigin}

theorem sheetOrigin?_eq_linked : p.sheetOrigin? n = some .linked ↔
    p.kind n = .link ∧ p.tree.isConnected n = true ∧ p.hasRel n "stylesheet" = true ∧
      p.hasAttr n "href" = true ∧ p.hasCssType n = true := by
  unfold sheetOrigin?
  split <;> simp_all [and_assoc]

theorem sheetOrigin?_eq_embedded : p.sheetOrigin? n = some .embedded ↔
    p.kind n = .style ∧ p.tree.isConnected n = true ∧ p.hasCssType n = true := by
  unfold sheetOrigin?
  split <;> simp_all

theorem kind_of_sheetOrigin? (h : p.sheetOrigin? n = some o) : p.kind n = o.kind := by
  cases o with
  | linked => exact (sheetOrigin?_eq_linked.mp h).1
  | embedded => exact (sheetOrigin?_eq_embedded.mp h).1

theorem isConnected_of_sheetOrigin? (h : p.sheetOrigin? n = some o) :
    p.tree.isConnected n = true := by
  cases o with
  | linked => exact (sheetOrigin?_eq_linked.mp h).2.1
  | embedded => exact (sheetOrigin?_eq_embedded.mp h).2.1

theorem kind_congr (h : q.element? n = p.element? n) : q.kind n = p.kind n := by
  simp [kind, h]

theorem attr?_congr (h : q.element? n = p.element? n) (name : String) :
    q.attr? n name = p.attr? n name := by
  simp [attr?, h]

theorem isElement_congr (h : q.element? n = p.element? n) : q.isElement n = p.isElement n :=
  congrArg Option.isSome h

theorem isElement_iff : p.isElement n = true ↔ ∃ e, p.element? n = some e :=
  Option.isSome_iff_exists

theorem isElement_of_kind_eq (h : p.kind n = o.kind) : p.isElement n = true :=
  isElement_of_kind (h ▸ o.kind_ne_other)

theorem isElement_of_sheetOrigin? (h : p.sheetOrigin? n = some o) : p.isElement n = true :=
  isElement_of_kind_eq (kind_of_sheetOrigin? h)

/-- What decides whether a node defines a sheet. -/
theorem sheetOrigin?_congr (hkind : q.kind n = p.kind n)
    (hconn : q.tree.isConnected n = p.tree.isConnected n)
    (hlink : p.kind n = .link → q.attr? n "rel" = p.attr? n "rel" ∧
      q.attr? n "href" = p.attr? n "href")
    (htype : p.kind n = .link ∨ p.kind n = .style → q.attr? n "type" = p.attr? n "type") :
    q.sheetOrigin? n = p.sheetOrigin? n := by
  unfold sheetOrigin?
  rw [hkind, hconn]
  split
  next hk => simp [hasRel, hasAttr, hasCssType, hlink hk, htype (.inl hk)]
  next hk => simp [hasCssType, htype (.inr hk)]
  · rfl

/-- The same element at a node that is connected as before defines the same. -/
theorem sheetOrigin?_of_element? (helement : q.element? n = p.element? n)
    (hconn : q.tree.isConnected n = p.tree.isConnected n) :
    q.sheetOrigin? n = p.sheetOrigin? n :=
  sheetOrigin?_congr (by simp [kind, helement]) hconn (by simp [attr?, helement])
    (by simp [attr?, helement])

theorem affectsSheets_of_isMove {c : Change} (hc : c.isMove = true)
    (hkind : p.kind n = o.kind) : p.affectsSheets n c = true := by
  cases o <;> simp [affectsSheets, hkind, SheetOrigin.kind, hc]

theorem isOf_eq_false {names : List String} {changed : Name} :
    (Change.ofAttribute changed).isOf names = false ↔
      ∀ name ∈ names, changed.isPlain name = false := by
  simp [Change.isOf]

/-- The attributes of a link that do not matter. -/
theorem isPlain_of_link {changed : Name} (hk : p.kind n = .link)
    (h : p.affectsSheets n (.ofAttribute changed) = false) :
    ∀ name ∈ ["href", "rel", "media", "title", "type", "disabled"],
      changed.isPlain name = false := by
  simp only [affectsSheets, hk, Bool.or_eq_false_iff] at h
  exact isOf_eq_false.mp h.2.2

/-- The attributes of a style element that do not matter. -/
theorem isPlain_of_style {changed : Name} (hk : p.kind n = .style)
    (h : p.affectsSheets n (.ofAttribute changed) = false) :
    ∀ name ∈ ["media", "title", "type"], changed.isPlain name = false := by
  simp only [affectsSheets, hk, Bool.or_eq_false_iff] at h
  exact isOf_eq_false.mp h.2.2

theorem isPlain_of_base {changed : Name} (hk : p.kind n = .base)
    (h : p.affectsSheets n (.ofAttribute changed) = false) : changed.isPlain "href" = false := by
  simp only [affectsSheets, hk, Bool.or_eq_false_iff] at h
  exact isOf_eq_false.mp h.2.2 "href" (by simp)

/-- The attributes of a metadata element that do not matter. -/
theorem isPlain_of_metadata {changed : Name} (hk : p.kind n = .metadata)
    (h : p.affectsSheets n (.ofAttribute changed) = false) :
    changed.isPlain "http-equiv" = false ∧
      (p.isDefaultStyle n = true → changed.isPlain "content" = false) := by
  simp only [affectsSheets, hk, Bool.or_eq_false_iff, Bool.and_eq_false_imp] at h
  exact ⟨isOf_eq_false.mp h.2.1 _ (by simp),
    fun hd => isOf_eq_false.mp (h.2.2 hd).2 _ (by simp)⟩

end Page

/-! ## What the lists hold -/

/-- The lists are parts of `order`, and hold the elements that define sheets; those of `pending`
they may hold or not. -/
structure Enlists (s : SheetStore) (p : Page) (order pending : List NodeId) : Prop where
  sublist : ∀ o, (s.definers o).Sublist order
  kind : ∀ o n, n ∈ s.definers o → p.kind n = o.kind
  mem : ∀ o n, n ∉ pending → (n ∈ s.definers o ↔ p.sheetOrigin? n = some o)

namespace Enlists

/-- The node has a place in `order`, which is tree order, if it defines a sheet. -/
def Placed (p : Page) (order : List NodeId) (n : NodeId) : Prop :=
  p.sheetOrigin? n ≠ none → n ∈ order ∧
    order.Pairwise fun a b => p.tree.compare a b = .lt ∧ p.tree.compare b a = .gt

variable {s s' : SheetStore} {p q : Page} {order pending : List NodeId} {n : NodeId}

/-- Only the lists count. -/
theorem congr (h : Enlists s p order pending) (hs : ∀ o, s'.definers o = s.definers o) :
    Enlists s' p order pending where
  sublist o := hs o ▸ h.sublist o
  kind o := hs o ▸ h.kind o
  mem o := hs o ▸ h.mem o

theorem weaken (h : Enlists s p order []) : Enlists s p order pending where
  sublist := h.sublist
  kind := h.kind
  mem o n _ := h.mem o n List.not_mem_nil

/-- Another page where elements define what they did. -/
theorem transport {order' : List NodeId} (h : Enlists s p order []) (horder : order.Sublist order')
    (hkind : ∀ m, p.kind m ≠ .other → q.kind m = p.kind m)
    (horigin : ∀ m, m ∉ pending → q.sheetOrigin? m = p.sheetOrigin? m) :
    Enlists s q order' pending where
  sublist o := (h.sublist o).trans horder
  kind o m hm := by
    have hk := h.kind o m hm
    rw [hkind m (hk ▸ o.kind_ne_other), hk]
  mem o m hm := by rw [horigin m hm, h.mem o m List.not_mem_nil]

/-- A node that is no element of the two kinds is in none of the lists, as it should. -/
theorem drop (h : Enlists s p order (n :: pending))
    (hn : ∀ o, n ∈ s.definers o ↔ p.sheetOrigin? n = some o) : Enlists s p order pending where
  sublist := h.sublist
  kind := h.kind
  mem o m hm := by
    by_cases he : m = n
    · subst m
      exact hn o
    · exact h.mem o m (by simp [he, hm])

theorem drop_other (h : Enlists s p order (n :: pending))
    (hn : ∀ o : SheetOrigin, p.kind n ≠ o.kind) : Enlists s p order pending := by
  refine h.drop fun o => ?_
  constructor
  · intro hm
    exact absurd (h.kind o n hm) (hn o)
  · intro ho
    exact absurd (Page.kind_of_sheetOrigin? ho) (hn o)

theorem strike (h : Enlists s p order (n :: pending)) :
    Enlists (s.strike n) p order (n :: pending) where
  sublist o := by
    rw [SheetStore.definers_strike]
    exact List.filter_sublist.trans (h.sublist o)
  kind o m hm := by
    rw [SheetStore.definers_strike] at hm
    exact h.kind o m (List.mem_of_mem_filter hm)
  mem o m hm := by
    have hne : m ≠ n := fun he => hm (he ▸ List.mem_cons_self)
    rw [SheetStore.definers_strike, List.mem_filter, h.mem o m hm]
    exact and_iff_left (by simpa using hne)

/-- An element that defines a sheet and is in no list is put in its place in one of them. -/
theorem putIn {o' : SheetOrigin} (h : Enlists s p order (n :: pending))
    (horigin : p.sheetOrigin? n = some o') (hn : n ∈ order)
    (hsorted : order.Pairwise fun a b => p.tree.compare a b = .lt ∧ p.tree.compare b a = .gt)
    (hnew : ∀ o, n ∉ s.definers o) :
    Enlists (s.withDefiners o' (SheetStore.insertInOrder p.tree n (s.definers o'))) p order
      pending := by
  obtain ⟨hsublist, hmem⟩ := SheetStore.insertInOrder_sublist hsorted (h.sublist o') hn (hnew o')
  constructor
  · intro o
    rw [SheetStore.definers_withDefiners]
    split
    · exact hsublist
    · exact h.sublist o
  · intro o m hm
    rw [SheetStore.definers_withDefiners] at hm
    split at hm
    · subst o'
      rcases (hmem m).mp hm with rfl | hm
      · exact Page.kind_of_sheetOrigin? horigin
      · exact h.kind o m hm
    · exact h.kind o m hm
  · intro o m hm
    rw [SheetStore.definers_withDefiners]
    by_cases he : m = n
    · subst m
      split
      · subst o'
        exact iff_of_true ((hmem n).mpr (.inl rfl)) horigin
      next hne => exact iff_of_false (hnew o) (by simpa [horigin] using Ne.symm hne)
    · rw [← h.mem o m (by simp [he, hm])]
      split
      · subst o'
        rw [hmem]
        exact or_iff_right he
      · rfl

/-- Striking an element that defines nothing, or putting it in that does, settles it. -/
theorem enlist (h : Enlists s p order (n :: pending)) (hplaced : Placed p order n) :
    Enlists (s.enlist p.tree n (p.sheetOrigin? n)) p order pending := by
  have hstruck : ∀ o, n ∉ (s.strike n).definers o := by
    intro o
    rw [SheetStore.definers_strike]
    simp
  cases horigin : p.sheetOrigin? n with
  | none => exact h.strike.drop fun o => iff_of_false (hstruck o) (by simp [horigin])
  | some o' =>
    obtain ⟨hn, hsorted⟩ := hplaced (by simp [horigin])
    unfold SheetStore.enlist
    dsimp only
    split
    next hmem =>
      -- An element in a list is of the kind of that list, so it is in no other one.
      rw [List.contains_iff_mem] at hmem
      refine h.drop fun o => ?_
      rw [horigin]
      constructor
      · intro hm
        have hk := (h.kind o n hm).symm.trans (Page.kind_of_sheetOrigin? horigin)
        cases o <;> cases o' <;> first | rfl | cases hk
      · intro ho
        cases ho
        exact hmem
    next => exact h.strike.putIn horigin hn hsorted hstruck

end Enlists

/-! ## Changes made known -/

namespace Document

variable {d : Document} {c : Change} {n : NodeId}

theorem notify_of_not_element (hn : d.page.isElement n = false) : notify c d n = d := by
  simp [notify, hn]

theorem notify_of_not_affects (hn : d.page.isElement n = true)
    (hc : d.page.affectsSheets n c = false) : notify c d n = d.stale .styles := by
  simp [notify, hn, Page.staleness, hc]

/-- A change that may change the list, of an element that may define a sheet. -/
theorem notify_of_kind {o : SheetOrigin} (hkind : d.page.kind n = o.kind)
    (hc : d.page.affectsSheets n c = true) :
    notify c d n = { d with sheets :=
      (d.sheets.forget n).enlist d.page.tree n (d.page.sheetOrigin? n) }.stale .sheets := by
  have hn : d.page.isElement n = true := Page.isElement_of_kind_eq hkind
  cases o <;> simp_all [notify, Page.staleness, SheetOrigin.kind]

theorem notify_of_base (hkind : d.page.kind n = .base) (hc : d.page.affectsSheets n c = true) :
    notify c d n = { d with sheets := d.sheets.forgetAll }.stale .sheets := by
  have hn : d.page.isElement n = true := by
    apply Page.isElement_of_kind
    rw [hkind]
    decide
  simp [notify, hn, Page.staleness, hc, hkind]

/-- A change that may change the list, of any other element. -/
theorem notify_of_other (hn : d.page.isElement n = true) (hc : d.page.affectsSheets n c = true)
    (hkind : ∀ o : SheetOrigin, d.page.kind n ≠ o.kind) (hbase : d.page.kind n ≠ .base) :
    notify c d n = d.stale .sheets := by
  have hlink := hkind .linked
  have hstyle := hkind .embedded
  simp only [SheetOrigin.kind] at hlink hstyle
  unfold notify
  rw [if_pos hn]
  dsimp only
  split <;> simp_all [Page.staleness]

/-- Only changes that concern elements of the two kinds change the lists. -/
theorem definers_notify_of_settled (o : SheetOrigin) (hc : ∀ o' : SheetOrigin,
    d.page.kind n = o'.kind → d.page.affectsSheets n c = false) :
    (notify c d n).sheets.definers o = d.sheets.definers o := by
  by_cases hn : d.page.isElement n = true
  · cases ha : d.page.affectsSheets n c with
    | false =>
      rw [notify_of_not_affects hn ha]
      rfl
    | true =>
      have hkind : ∀ o' : SheetOrigin, d.page.kind n ≠ o'.kind := by
        intro o' ho
        simp [hc o' ho] at ha
      by_cases hbase : d.page.kind n = .base
      · rw [notify_of_base hbase ha]
        cases o <;> rfl
      · rw [notify_of_other hn ha hkind hbase]
        cases o <;> rfl
  · rw [notify_of_not_element (Bool.eq_false_iff.mpr hn)]

theorem definers_notify_of_kind (o : SheetOrigin) {o' : SheetOrigin}
    (hkind : d.page.kind n = o'.kind) (hc : d.page.affectsSheets n c = true) :
    (notify c d n).sheets.definers o =
      (d.sheets.enlist d.page.tree n (d.page.sheetOrigin? n)).definers o := by
  rw [notify_of_kind hkind hc]
  show (SheetStore.dropList _).definers o = _
  rw [SheetStore.definers_dropList]
  cases d.page.sheetOrigin? n with
  | none =>
    rw [SheetStore.definers_enlist_none, SheetStore.definers_enlist_none,
      SheetStore.definers_forget]
  | some _ =>
    rw [SheetStore.definers_enlist_some, SheetStore.definers_enlist_some,
      SheetStore.definers_forget, SheetStore.definers_forget]

end Document

namespace Enlists

variable {d : Document} {order pending : List NodeId} {c : Change} {n : NodeId}

/-- A change that is made known settles its element, unless it is none that matters; then the
element has to be settled already. -/
theorem notify (h : Enlists d.sheets d.page order (n :: pending)) (hplaced : Placed d.page order n)
    (hn : d.page.affectsSheets n c = false →
      ∀ o, n ∈ d.sheets.definers o ↔ d.page.sheetOrigin? n = some o) :
    Enlists (Document.notify c d n).sheets d.page order pending := by
  by_cases hc : ∀ o' : SheetOrigin, d.page.kind n = o'.kind → d.page.affectsSheets n c = false
  · refine Enlists.congr ?_ fun o => Document.definers_notify_of_settled o hc
    by_cases hkind : ∀ o : SheetOrigin, d.page.kind n ≠ o.kind
    · exact h.drop_other hkind
    · obtain ⟨o', ho'⟩ := not_forall_not.mp hkind
      exact h.drop (hn (hc o' ho'))
  · obtain ⟨o', hc⟩ := not_forall.mp hc
    obtain ⟨hkind, haffects⟩ := Classical.not_imp.mp hc
    refine (h.enlist hplaced).congr fun o => ?_
    exact Document.definers_notify_of_kind o hkind (by simpa using haffects)

/-- Nodes that were put in or taken out are settled one by one. -/
theorem notifyAll {p : Page} {nodes : List NodeId} (hc : c.isMove = true) (hpage : d.page = p)
    (h : Enlists d.sheets p order nodes) (hplaced : ∀ n ∈ nodes, Placed p order n) :
    Enlists (d.notifyAll c nodes).sheets p order [] := by
  induction nodes generalizing d with
  | nil => exact h
  | cons n nodes ih =>
    subst hpage
    refine ih (Document.page_notify d c n) (h.notify (hplaced n List.mem_cons_self) ?_)
      fun m hm => hplaced m (List.mem_cons_of_mem n hm)
    intro haffects o
    have hkind : d.page.kind n ≠ o.kind := by
      intro hkind
      simp [Page.affectsSheets_of_isMove hc hkind] at haffects
    constructor
    · intro hm
      exact absurd (h.kind o n hm) hkind
    · intro ho
      exact absurd (Page.kind_of_sheetOrigin? ho) hkind

/-- A change of a settled element leaves it settled. -/
theorem notifyAll_settled {p : Page} {nodes : List NodeId} (hpage : d.page = p)
    (h : Enlists d.sheets p order []) (hplaced : ∀ n ∈ nodes, Placed p order n) :
    Enlists (d.notifyAll c nodes).sheets p order [] := by
  induction nodes generalizing d with
  | nil => exact h
  | cons n nodes ih =>
    subst hpage
    have hweak : Enlists d.sheets d.page order [n] := h.weaken
    refine ih (Document.page_notify d c n) (hweak.notify (hplaced n List.mem_cons_self) ?_)
      fun m hm => hplaced m (List.mem_cons_of_mem n hm)
    exact fun _ o => h.mem o n List.not_mem_nil

end Enlists

end StyleTree
