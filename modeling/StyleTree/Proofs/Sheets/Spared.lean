import StyleTree.Proofs.Document.Refused
import StyleTree.Proofs.Sheets.Coherence
import StyleTree.Proofs.Style.Reading

/-!
# Operations that spare the list of style sheets

A document is clean exactly if it keeps a list of style sheets. `Spares` names the operations that
cannot matter for the list, by the elements and attributes that they concern; what the document
keeps about its style sheets is the same after them, list and all.
-/

namespace StyleTree

/-! ## Elements and attributes that do not matter -/

namespace Page

variable {p q : Page} {n : NodeId}

/-- The node has no part in the list of style sheets: it is no link, style or base element, and does
not name the preferred set. -/
structure IsBystander (p : Page) (n : NodeId) : Prop where
  not_link : p.kind n ≠ .link
  not_style : p.kind n ≠ .style
  not_base : p.kind n ≠ .base
  not_default : p.isDefaultStyle n = false

theorem isDefaultStyle_congr (h : q.element? n = p.element? n) :
    q.isDefaultStyle n = p.isDefaultStyle n := by
  simp [isDefaultStyle, kind_congr h, attr?_congr h]

theorem IsBystander.congr (h : p.IsBystander n) (he : q.element? n = p.element? n) :
    q.IsBystander n where
  not_link := kind_congr he ▸ h.not_link
  not_style := kind_congr he ▸ h.not_style
  not_base := kind_congr he ▸ h.not_base
  not_default := isDefaultStyle_congr he ▸ h.not_default

theorem isOf_of_isMove {c : Change} (hc : c.isMove = true) (names : List String) :
    c.isOf names = false := by
  cases c <;> first | rfl | cases hc

theorem IsBystander.not_affects (h : p.IsBystander n) {c : Change} (hc : c.isMove = true) :
    p.affectsSheets n c = false := by
  obtain ⟨hlink, hstyle, hbase, hdefault⟩ := h
  unfold affectsSheets
  rw [isOf_of_isMove hc, Bool.false_or]
  split
  · contradiction
  · contradiction
  · contradiction
  · rw [isOf_of_isMove hc, hdefault]
    rfl
  · rfl

/-- Children matter to style elements alone. -/
theorem affectsSheets_children : p.affectsSheets n .children = decide (p.kind n = .style) := by
  unfold affectsSheets
  split <;> simp_all [Change.isOf, Change.isMove]

/-- The attribute of the element does not matter: it is not the style attribute, and the element is
none that could have a part in the list, or names no preferred set and is said which one to name. -/
structure SparesAttribute (p : Page) (n : NodeId) (changed : Name) : Prop where
  not_style : changed.isPlain "style" = false
  harmless : p.kind n ∉ [ElementKind.link, .style, .base, .metadata] ∨
    p.kind n = .metadata ∧ changed.isPlain "content" = true ∧ p.isDefaultStyle n = false

theorem SparesAttribute.not_affects {changed : Name} (h : p.SparesAttribute n changed) :
    p.affectsSheets n (.ofAttribute changed) = false := by
  have hstyle : (Change.ofAttribute changed).isOf ["style"] = false := by
    simp [Change.isOf, h.not_style]
  unfold affectsSheets
  rw [hstyle, Bool.false_or]
  rcases h.harmless with hkind | ⟨hkind, hcontent, hdefault⟩
  · simp only [List.mem_cons, List.not_mem_nil, or_false, not_or] at hkind
    obtain ⟨hlink, hstyleKind, hbase, hmeta⟩ := hkind
    split <;> first | contradiction | rfl
  · have hequiv : (Change.ofAttribute changed).isOf ["http-equiv"] = false := by
      simp_all [Change.isOf, Name.isPlain]
    simp only [hkind]
    rw [hequiv, hdefault]
    rfl

end Page

namespace Document

/-- What the document keeps about its style sheets is the same, and so is whether it is clean. -/
structure KeepsSheets (d d' : Document) : Prop where
  sheets : d'.sheets = d.sheets
  state : d'.cache.state = d.cache.state

variable {d d' d'' : Document} {c : Change} {n : NodeId}

namespace KeepsSheets

theorem refl (d : Document) : d.KeepsSheets d := ⟨rfl, rfl⟩

theorem trans (h : d.KeepsSheets d') (h' : d'.KeepsSheets d'') : d.KeepsSheets d'' :=
  ⟨h'.sheets.trans h.sheets, h'.state.trans h.state⟩

theorem isClean (h : d.KeepsSheets d') : d'.isClean = d.isClean := by
  rw [Document.isClean, h.state]
  rfl

end KeepsSheets

/-! ## Notifications -/

theorem keepsSheets_notify (h : d.page.affectsSheets n c = false) :
    d.KeepsSheets (notify c d n) := by
  cases hn : d.page.isElement n with
  | false =>
    rw [notify_of_not_element hn]
    exact .refl d
  | true =>
    rw [notify_of_not_affects hn h]
    exact ⟨rfl, rfl⟩

theorem keepsSheets_notifyAll {nodes : List NodeId}
    (h : ∀ m ∈ nodes, d.page.affectsSheets m c = false) :
    d.KeepsSheets (d.notifyAll c nodes) := by
  induction nodes generalizing d with
  | nil => exact .refl d
  | cons n nodes ih =>
    have hfirst : d.KeepsSheets (notify c d n) := keepsSheets_notify (h n List.mem_cons_self)
    refine hfirst.trans (ih fun m hm => ?_)
    rw [page_notify]
    exact h m (List.mem_cons_of_mem n hm)

/-- Bystanders are moved, below a node that is no style element. -/
theorem keepsSheets_moved {moved : List NodeId} {p : NodeId} (hc : c.isMove = true)
    (hmoved : ∀ m ∈ moved, d.page.IsBystander m) (hp : d.page.kind p ≠ .style) :
    d.KeepsSheets ((d.notifyAll c moved).notifyAll .children [p]) := by
  have hfirst : d.KeepsSheets (d.notifyAll c moved) :=
    keepsSheets_notifyAll fun m hm => (hmoved m hm).not_affects hc
  refine hfirst.trans (keepsSheets_notifyAll fun m hm => ?_)
  obtain rfl := List.mem_singleton.mp hm
  rw [page_notifyAll, Page.affectsSheets_children]
  exact decide_eq_false hp

/-! ## The tree -/

theorem keepsSheets_detach (hvalid : d.page.tree.Valid) {p : NodeId}
    (hp : d.page.tree.parent? n = some p)
    (hmoved : ∀ m ∈ d.page.tree.preorder n, d.page.IsBystander m) (hkind : d.page.kind p ≠ .style) :
    d.KeepsSheets (d.detach p n) := by
  obtain ⟨xs, ys, g⟩ := hvalid.graft_unlink hp
  let cut : Document := { d.withTree (d.page.tree.unlink n) with
    cache := ((d.page.tree.unlink n).preorder n).foldl StyleCache.forget d.cache }
  have helement : ∀ m, cut.page.element? m = d.page.element? m := fun _ => Tree.element?_unlink
  have hcut : d.KeepsSheets cut := by
    obtain ⟨styles, -, hforget⟩ :=
      StyleCache.forget_all ((d.page.tree.unlink n).preorder n) d.cache
    exact ⟨rfl, (congrArg StyleCache.state hforget : _)⟩
  refine hcut.trans (keepsSheets_moved rfl (fun m hm => ?_) ?_)
  · exact (hmoved m (g.preorder_self ▸ hm)).congr (helement m)
  · rw [Page.kind_congr (helement p)]
    exact hkind

theorem keepsSheets_attach (hvalid : d.page.tree.Valid) {p : NodeId} {before : Option NodeId}
    {parent child : NodeData} (hcan : CanInsert d.page.tree p n before parent child)
    (hroot : d.page.tree.parent? n = none)
    (hmoved : ∀ m ∈ d.page.tree.preorder n, d.page.IsBystander m) (hkind : d.page.kind p ≠ .style) :
    d.KeepsSheets (d.attach p n before) := by
  obtain ⟨xs, ys, rfl, i⟩ := hcan.insertable hvalid.toSound hroot
  have g := i.graft hvalid.toSound
  let put : Document := d.withTree (d.page.tree.link p n ys.head?)
  have helement : ∀ m, put.page.element? m = d.page.element? m := fun _ => Tree.element?_link
  have hput : d.KeepsSheets put := ⟨rfl, rfl⟩
  refine hput.trans (keepsSheets_moved rfl (fun m hm => ?_) ?_)
  · exact (hmoved m (g.preorder_self ▸ hm)).congr (helement m)
  · rw [Page.kind_congr (helement p)]
    exact hkind

/-- What was taken out is what is put in again. -/
theorem bystanders_detach (hvalid : d.page.tree.Valid) {p : NodeId}
    (hp : d.page.tree.parent? n = some p)
    (hmoved : ∀ m ∈ d.page.tree.preorder n, d.page.IsBystander m) :
    ∀ m ∈ (d.detach p n).page.tree.preorder n, (d.detach p n).page.IsBystander m := by
  obtain ⟨xs, ys, g⟩ := hvalid.graft_unlink hp
  intro m hm
  rw [tree_detach, ← g.preorder_self] at hm
  refine (hmoved m hm).congr ?_
  rw [Page.element?, tree_detach]
  exact Tree.element?_unlink

/-! ## Attributes, text and the URL -/

theorem keepsSheets_withAttributes {e : Element} {as : List Attribute} {changed : Name}
    (he : d.page.tree.data? n = some (.element e))
    (hsame : Element.SameBut changed as e.attributes) (h : d.page.SparesAttribute n changed) :
    d.KeepsSheets (d.withAttributes n e as changed) := by
  let put : Document := d.withElement n { e with attributes := as }
  have hkind : put.page.kind n = d.page.kind n := kind_withElement he rfl
  have hput : d.KeepsSheets put := ⟨rfl, rfl⟩
  have hspares : put.page.SparesAttribute n changed := by
    refine ⟨h.not_style, ?_⟩
    rw [hkind]
    refine h.harmless.imp_right fun ⟨hmeta, hcontent, hdefault⟩ => ⟨hmeta, hcontent, ?_⟩
    have hne : changed.isPlain "http-equiv" = false := by simp_all [Name.isPlain]
    rw [Page.isDefaultStyle, hkind, attr?_withElement he hsame hne]
    exact hdefault
  exact hput.trans (keepsSheets_notify hspares.not_affects)

theorem keepsSheets_withText {old new : NodeData} {text : String}
    (hold : d.page.tree.data? n = some old) (hnew : Edit.withText? text old = some new)
    (hparent : ∀ p, d.page.tree.parent? n = some p → d.page.kind p ≠ .style) :
    d.KeepsSheets (d.withText n new) := by
  let put : Document := d.withTree (d.page.tree.setData n new)
  have hput : d.KeepsSheets put := ⟨rfl, rfl⟩
  refine hput.trans (keepsSheets_notifyAll fun m hm => ?_)
  have helement : put.page.element? m = d.page.element? m :=
    Tree.element?_setData_of_withText? hold hnew m
  rw [Page.affectsSheets_children, Page.kind_congr helement]
  exact decide_eq_false (hparent m (Option.mem_toList.mp hm))

theorem keepsSheets_withUrl {url : Option Url}
    (h : url.map Url.withoutFragment = d.page.url.map Url.withoutFragment) :
    d.KeepsSheets (d.withUrl url) := by
  unfold withUrl
  dsimp only
  rw [if_pos h.symm]
  exact ⟨rfl, rfl⟩

end Document

/-! ## Operations -/

namespace Document

/-- The operation does not concern the list of style sheets of the document. -/
inductive Spares (d : Document) : Operation → Prop where
  | createElement (localName : String) : Spares d (.createElement localName)
  | createElementNs (ns : Option String) (qualified : String) :
    Spares d (.createElementNs ns qualified)
  | createText (data : String) : Spares d (.createText data)
  | createComment (data : String) : Spares d (.createComment data)
  | createEntityReference (name text : String) : Spares d (.createEntityReference name text)
  | createInstruction (target data : String) : Spares d (.createInstruction target data)
  /-- Nodes without a part in the list are put in or moved, from and to where no text of a style
  sheet is. -/
  | insertBefore {p n : NodeId} (before : Option NodeId)
    (hmoved : ∀ m ∈ d.page.tree.preorder n, d.page.IsBystander m)
    (hold : ∀ old, d.page.tree.parent? n = some old → d.page.kind old ≠ .style)
    (hnew : d.page.kind p ≠ .style) : Spares d (.insertBefore p n before)
  | removeChild {p n : NodeId} (hmoved : ∀ m ∈ d.page.tree.preorder n, d.page.IsBystander m)
    (hold : d.page.kind p ≠ .style) : Spares d (.removeChild p n)
  | ofAttribute {o : Operation} (ho : o.isOfAttribute = true)
    (h : ∀ n changed, o.changedAttribute? d.page = some (n, changed) →
      d.page.SparesAttribute n changed) : Spares d o
  | setText {n : NodeId} (text : String)
    (hparent : ∀ p, d.page.tree.parent? n = some p → d.page.kind p ≠ .style) :
    Spares d (.setText n text)
  | setState (n : NodeId) (flags : List StateFlag) (value : Bool) :
    Spares d (.setState n flags value)
  | addCustomState (n : NodeId) (name : String) : Spares d (.addCustomState n name)
  | removeCustomState (n : NodeId) (name : String) : Spares d (.removeCustomState n name)
  | clearStates (n : NodeId) : Spares d (.clearStates n)
  | setUrl {url : Option Url}
    (h : url.map Url.withoutFragment = d.page.url.map Url.withoutFragment) : Spares d (.setUrl url)
  | setMedium : Spares d (.setMedium d.medium)
  | refused {o : Operation} {e : DocumentError} {d' : Document} (h : o.edit d = .error e d') :
    Spares d o

variable {d : Document} {o : Operation}

/-- The attribute that an operation changes does not matter. -/
theorem leads_of_attribute (hsound : d.page.tree.Sound) (ho : o.isOfAttribute = true)
    (h : ∀ n changed, o.changedAttribute? d.page = some (n, changed) →
      d.page.SparesAttribute n changed) : o.edit.Leads d.KeepsSheets d := by
  refine (leads_course hsound o).mono fun d' hcourse => ?_
  cases hcourse with
  | nothing => exact .refl d
  | attributes hchanged he hsame => exact keepsSheets_withAttributes he hsame (h _ _ hchanged)
  | push hcreate => cases o <;> cases ho <;> cases hcreate
  | states hstates => cases o <;> cases ho <;> cases hstates
  | _ => cases ho

/-- What the document keeps about its style sheets is the same after an operation that does not
concern them. -/
theorem Spares.leads (hvalid : d.page.tree.Valid) (h : d.Spares o) :
    o.edit.Leads d.KeepsSheets d := by
  have hsame : d.KeepsSheets d := .refl d
  cases h with
  | createElement => exact .map (.checkName (.push ⟨rfl, rfl⟩))
  | createElementNs => exact .map (.nameOf fun _ _ => .push ⟨rfl, rfl⟩)
  | createText => exact .map (.push ⟨rfl, rfl⟩)
  | createComment => exact .map (.push ⟨rfl, rfl⟩)
  | createEntityReference => exact .map (.checkName (.push ⟨rfl, rfl⟩))
  | createInstruction =>
    refine .map (.checkName ?_)
    dsimp only
    split
    · exact .refuse _
    · exact .push ⟨rfl, rfl⟩
  | @insertBefore p n before hmoved hold hnew =>
    refine .silent (.insertBefore hvalid.toSound ?_ ?_)
    · intro parent child hcan hroot
      exact keepsSheets_attach hvalid hcan hroot hmoved hnew
    · intro old reference parent child hp hcan hroot
      have hout : d.KeepsSheets (d.detach old n) :=
        keepsSheets_detach hvalid hp hmoved (hold old hp)
      have hkind : (d.detach old n).page.kind p ≠ .style := by
        rw [Page.kind, Page.element?, tree_detach, Tree.element?_unlink]
        exact hnew
      have hvalid' : (d.detach old n).page.tree.Valid := by
        rw [tree_detach]
        exact hvalid.unlink hp
      exact hout.trans
        (keepsSheets_attach hvalid' hcan hroot (bystanders_detach hvalid hp hmoved) hkind)
  | removeChild hmoved hold =>
    exact .silent (.removeChild fun hp => keepsSheets_detach hvalid hp hmoved hold)
  | ofAttribute ho hspares => exact leads_of_attribute hvalid.toSound ho hspares
  | setText text hparent =>
    exact .silent (.setText fun old new hold hnew => keepsSheets_withText hold hnew hparent)
  | setState | addCustomState | removeCustomState =>
    exact .silent (.element fun e he => .putStates hsame ⟨rfl, rfl⟩)
  | clearStates => exact .silent (.element fun e he => .modify ⟨rfl, rfl⟩)
  | setUrl hurl => exact .silent (.modify (keepsSheets_withUrl hurl))
  | setMedium => exact .silent (.setMedium (fun _ => hsame) fun hne => absurd rfl hne)
  | refused hrefused =>
    unfold Edit.Leads
    rw [hrefused]
    exact (leads_course hvalid.toSound o).refused hrefused

/-! ## Clean documents -/

/-- The document is clean exactly if it keeps a list of style sheets. -/
def CleanIfListed (d : Document) : Prop :=
  d.isClean = true ↔ d.sheets.list.isSome = true

theorem CleanIfListed.keepsSheets {d' : Document} (h : d.CleanIfListed) (hd : d.KeepsSheets d') :
    d'.CleanIfListed := by
  unfold CleanIfListed
  rw [hd.isClean, hd.sheets]
  exact h

/-- The list is dropped where the document ceases to be clean. -/
theorem cleanIfListed_stale_sheets (d : Document) : (d.stale .sheets).CleanIfListed := by
  constructor
  · exact fun h => nomatch h
  · exact fun h => nomatch h

theorem CleanIfListed.notify (h : d.CleanIfListed) (c : Change) (n : NodeId) :
    (notify c d n).CleanIfListed := by
  rcases notify_cases c d n with ⟨-, he⟩ | ⟨-, he⟩ | ⟨-, s, he, -⟩
  · rw [he]
    exact h
  · rw [he]
    exact h.keepsSheets ⟨rfl, rfl⟩
  · rw [he]
    exact cleanIfListed_stale_sheets _

theorem CleanIfListed.notifyAll (h : d.CleanIfListed) (c : Change) (nodes : List NodeId) :
    (d.notifyAll c nodes).CleanIfListed := by
  induction nodes generalizing d with
  | nil => exact h
  | cons n nodes ih => exact ih (h.notify c n)

theorem CleanIfListed.readSheets (h : d.CleanIfListed) : d.readSheets.2.CleanIfListed := by
  cases hlist : d.sheets.list with
  | some list =>
    rw [readSheets_of_list hlist]
    exact h
  | none =>
    unfold Document.readSheets
    rw [hlist]
    exact ⟨fun _ => rfl, fun _ => rfl⟩

theorem CleanIfListed.readStyle (h : d.CleanIfListed) (n : NodeId) (q : Option PseudoElement) :
    (d.readStyle n q).2.CleanIfListed := by
  have hstarted : d.started.CleanIfListed := h.keepsSheets ⟨rfl, state_started d⟩
  cases hn : d.page.isElement n with
  | false =>
    rw [readStyle_of_not_element hn]
    exact h
  | true =>
    cases hfound : d.started.cache.lookup? n q with
    | some object =>
      rw [readStyle_of_lookup? hn hfound]
      exact hstarted
    | none =>
      have hbare := withoutStyles_readStyle hn hfound
      have hsheets := congrArg Document.sheets hbare
      have hstate := congrArg (·.cache.state) hbare
      exact hstarted.readSheets.keepsSheets ⟨hsheets, hstate⟩

theorem step_cleanIfListed {allowed : Cascade → Prop} {d' : Document} (h : d.CleanIfListed)
    (s : Step allowed d d') : d'.CleanIfListed := by
  cases s with
  | push => exact h.keepsSheets ⟨rfl, rfl⟩
  | @detach p n =>
    let cut : Document := { d.withTree (d.page.tree.unlink n) with
      cache := ((d.page.tree.unlink n).preorder n).foldl StyleCache.forget d.cache }
    have hcut : cut.CleanIfListed := by
      obtain ⟨styles, -, hforget⟩ :=
        StyleCache.forget_all ((d.page.tree.unlink n).preorder n) d.cache
      exact h.keepsSheets ⟨rfl, (congrArg StyleCache.state hforget : _)⟩
    exact (hcut.notifyAll .removed _).notifyAll .children _
  | @attach p n before =>
    have hput : (d.withTree (d.page.tree.link p n before)).CleanIfListed :=
      h.keepsSheets ⟨rfl, rfl⟩
    exact (hput.notifyAll .inserted _).notifyAll .children _
  | @attributes n e as changed =>
    have hput : (d.withElement n { e with attributes := as }).CleanIfListed :=
      h.keepsSheets ⟨rfl, rfl⟩
    exact hput.notify (.ofAttribute changed) n
  | states => exact h.keepsSheets ⟨rfl, rfl⟩
  | @text n old new =>
    have hput : (d.withTree (d.page.tree.setData n new)).CleanIfListed :=
      h.keepsSheets ⟨rfl, rfl⟩
    exact hput.notifyAll .children _
  | url url =>
    unfold withUrl
    dsimp only
    split
    · exact h.keepsSheets ⟨rfl, rfl⟩
    · exact cleanIfListed_stale_sheets _
  | header | medium | register | rebuild | cascade | loader | selectSet | enableSet =>
    exact cleanIfListed_stale_sheets _
  | readSheets => exact h.readSheets
  | readStyle n q => exact h.readStyle n q

theorem create_cleanIfListed (doctype : Option String) (o : Options) :
    (create doctype o).CleanIfListed := by
  constructor
  · exact fun h => nomatch h
  · exact fun h => nomatch h

theorem run_cleanIfListed (doctype : Option String) (o : Options) (os : List Operation) :
    ((create doctype o).run os).CleanIfListed :=
  (run_valid_induction (fun _ => True) (fun _ _ _ => step_cleanIfListed) os (fun _ _ => trivial)
    (create_valid doctype o) (create_cleanIfListed doctype o)).2

/-- After any operations, the document is clean exactly if it keeps a list of style sheets; and an
operation that does not concern the style sheets leaves that list, with all else that is kept about
them, and whether the document is clean. -/
theorem spared_run (doctype : Option String) (o : Options) (os : List Operation) :
    let d := (create doctype o).run os
    (d.isClean = true ↔ d.sheets.list.isSome = true) ∧
      ∀ op, d.Spares op →
        (d.perform op).sheets = d.sheets ∧ (d.perform op).isClean = d.isClean := by
  intro d
  refine ⟨run_cleanIfListed doctype o os, fun op hspares => ?_⟩
  have hkeeps : d.KeepsSheets (d.perform op) :=
    (hspares.leads (run_valid doctype o os)).after (.refl d)
  exact ⟨hkeeps.sheets, hkeeps.isClean⟩

/-- A document whose list was read stays clean when a class is set. -/
theorem spared_run_class :
    let d := (create none .default).run
      [.createElement "div", .insertBefore Tree.root 1 none, .readSheets]
    let op := Operation.setAttribute 1 "class" "a"
    d.isClean = true ∧ d.Spares op ∧
      (d.perform op).sheets = d.sheets ∧ (d.perform op).isClean = d.isClean := by
  intro d op
  have hspares : d.Spares op := by
    have hchanged : op.changedAttribute? d.page = some (1, .plain "class") := by decide +kernel
    refine .ofAttribute rfl fun n changed h => ?_
    obtain ⟨rfl, rfl⟩ : 1 = n ∧ Name.plain "class" = changed := by simpa [hchanged] using h
    exact ⟨by decide, .inl (by decide +kernel)⟩
  exact ⟨by decide +kernel, hspares, (spared_run none .default _).2 op hspares⟩

end Document

end StyleTree
