import StyleTree.Proofs.Style.Cascade
import StyleTree.Proofs.Style.Quiet

/-!
# Every style that is read is current

`styleAnew` computes the style of an element, or of its pseudo-element, from nothing that was kept.
A document is `Current` if the styles that it keeps and that have its serial are those. Loud
changes leave none of its serial, quiet ones leave what they are computed from; so every document
is current, and what is read from it is what would be computed anew.
-/

namespace StyleTree

/-- The style, the one that it inherits from, and so on. -/
def ComputedStyle.lineage : ComputedStyle → List ComputedStyle
  | .mk values none pseudo serial => [.mk values none pseudo serial]
  | .mk values (some parent) pseudo serial =>
    .mk values (some parent) pseudo serial :: parent.lineage

namespace Document

/-! ## Styles computed anew -/

/-- What the cascade makes of the element, or of its pseudo-element, and the style that it inherits
from. The style sheets are those that the document lists now. -/
def computeAnew (d : Document) (serial : Nat) (n : NodeId) (pseudo : Option PseudoElement)
    (parent : Option ComputedStyle) : ComputedStyle :=
  .mk (d.cascade (d.cascadeInputs d.readSheets.1 n pseudo parent)) parent pseudo serial

/-- The style of the first element of a list in which every element is followed by its parent. -/
def chainAnew (d : Document) (serial : Nat) : List NodeId → Option ComputedStyle
  | [] => none
  | n :: ancestors => some (d.computeAnew serial n none (d.chainAnew serial ancestors))

/-- The style of an element, computed from that of its parent element, or of its pseudo-element,
computed from that of the element. None if the node is no element. -/
def styleAnew (d : Document) (serial : Nat) (n : NodeId) (pseudo : Option PseudoElement) :
    Option ComputedStyle :=
  if d.page.isElement n then
    let own := d.chainAnew serial (n :: d.page.ancestorElements n)
    match pseudo with
    | none => own
    | some q => some (d.computeAnew serial n (some q) own)
  else none

variable {d d' : Document} {n : NodeId} {q : Option PseudoElement} {serial : Nat}

/-- The style of an element goes back to that of the parent element. -/
theorem styleAnew_none (serial : Nat) (h : d.page.tree.Sound) (hn : d.page.isElement n = true) :
    d.styleAnew serial n none =
      some (d.computeAnew serial n none
        ((d.page.parentElement? n).bind (d.styleAnew serial · none))) := by
  rw [styleAnew, if_pos hn]
  show some (d.computeAnew serial n none (d.chainAnew serial (d.page.ancestorElements n))) = _
  rw [Page.ancestorElements_eq h]
  cases hp : d.page.parentElement? n with
  | none => rfl
  | some p =>
    rw [Option.bind_some, styleAnew, if_pos (Page.isElement_of_parentElement? hp)]
    rfl

/-- The style of a pseudo-element goes back to that of the element. -/
theorem styleAnew_some (q : PseudoElement) (hn : d.page.isElement n = true) :
    d.styleAnew serial n (some q) =
      some (d.computeAnew serial n (some q) (d.styleAnew serial n none)) := by
  simp only [styleAnew, if_pos hn]

theorem chainAnew_congr {l : List NodeId}
    (hcompute : ∀ m ∈ l, ∀ pseudo parent,
      d'.computeAnew serial m pseudo parent = d.computeAnew serial m pseudo parent) :
    d'.chainAnew serial l = d.chainAnew serial l := by
  induction l with
  | nil => rfl
  | cons n l ih =>
    rw [chainAnew, chainAnew, hcompute n List.mem_cons_self]
    rw [ih fun m hm => hcompute m (List.mem_cons_of_mem n hm)]

theorem styleAnew_congr (hn : d'.page.isElement n = d.page.isElement n)
    (habove : d.page.isElement n = true → d'.page.ancestorElements n = d.page.ancestorElements n)
    (hcompute : ∀ m, d.page.isElement m = true → ∀ pseudo parent,
      d'.computeAnew serial m pseudo parent = d.computeAnew serial m pseudo parent) :
    d'.styleAnew serial n q = d.styleAnew serial n q := by
  unfold styleAnew
  rw [hn]
  split
  next helement =>
    have hchain : d'.chainAnew serial (n :: d'.page.ancestorElements n) =
        d.chainAnew serial (n :: d.page.ancestorElements n) := by
      rw [habove helement]
      refine chainAnew_congr fun m hm => hcompute m ?_
      rcases List.mem_cons.mp hm with rfl | hm
      · exact helement
      · exact Page.isElement_of_mem_ancestorElements hm
    rw [hchain]
    cases q with
    | none => rfl
    | some q => simp only [hcompute n helement]
  · rfl

/-- What is computed from a style of one serial is of that serial throughout. -/
theorem serial_of_mem_lineage {parent : Option ComputedStyle}
    (h : ∀ style, parent = some style → ∀ s ∈ style.lineage, s.serial = serial) :
    ∀ s ∈ (d.computeAnew serial n q parent).lineage, s.serial = serial := by
  intro s hs
  cases parent with
  | none =>
    rw [computeAnew, ComputedStyle.lineage, List.mem_singleton] at hs
    rw [hs]
    rfl
  | some style =>
    rw [computeAnew, ComputedStyle.lineage, List.mem_cons] at hs
    rcases hs with rfl | hs
    · rfl
    · exact h style rfl s hs

theorem serial_of_chainAnew {l : List NodeId} :
    ∀ style, d.chainAnew serial l = some style → ∀ s ∈ style.lineage, s.serial = serial := by
  induction l with
  | nil => exact fun _ h => nomatch h
  | cons n l ih =>
    rintro _ ⟨⟩
    exact serial_of_mem_lineage ih

theorem serial_of_styleAnew :
    ∀ style, d.styleAnew serial n q = some style → ∀ s ∈ style.lineage, s.serial = serial := by
  intro style h
  unfold styleAnew at h
  split at h
  · cases q with
    | none => exact serial_of_chainAnew style h
    | some q =>
      cases h
      exact serial_of_mem_lineage serial_of_chainAnew
  · cases h

/-! ## Documents whose styles are current -/

/-- The styles that the document keeps under its serial are those that it would compute. -/
structure Current (d : Document) : Prop where
  lawful : d.cascade.Lawful
  serial_pos : ∀ x ∈ d.cache.styles, 0 < x.2.style.serial
  serial_le : ∀ x ∈ d.cache.styles, x.2.style.serial ≤ d.serial
  list : ∀ x ∈ d.cache.styles, x.2.style.serial = d.serial → d.sheets.list.isSome = true
  anew : ∀ x ∈ d.cache.styles, x.2.style.serial = d.serial →
    d.styleAnew d.serial x.1.1 x.1.2 = some x.2.style

/-- A loud change leaves no style of the serial. -/
theorem Current.loud (h : d.Current) (hloud : Loud d d') (hlawful : d'.cascade.Lawful) :
    d'.Current := by
  have hlt : ∀ x ∈ d'.cache.styles, x.2.style.serial < d'.serial := fun x hx =>
    Nat.lt_of_le_of_lt (h.serial_le x (hloud.styles hx)) hloud.serial
  refine ⟨hlawful, ?_, ?_, ?_, ?_⟩
  · exact fun x hx => h.serial_pos x (hloud.styles hx)
  · exact fun x hx => (hlt x hx).le
  · exact fun x hx hs => absurd hs (hlt x hx).ne
  · exact fun x hx hs => absurd hs (hlt x hx).ne

/-- What is computed is the same after a quiet change, as long as the list of style sheets is
there. -/
theorem Quiet.computeAnew (hquiet : Quiet d d') (hlawful : d.cascade.Lawful)
    (hlist : d.sheets.list.isSome = true) (hn : d.page.isElement n = true)
    (parent : Option ComputedStyle) :
    d'.computeAnew serial n q parent = d.computeAnew serial n q parent := by
  obtain ⟨list, hlist⟩ := Option.isSome_iff_exists.mp hlist
  have hread : d.readSheets.1 = list ∧ d'.readSheets.1 = list := by
    have hlist' := hquiet.list.trans hlist
    simp [readSheets, hlist, hlist']
  have hattribute : d'.styleAttribute n q = d.styleAttribute n q := by
    unfold styleAttribute
    rw [hquiet.parserFlags, hquiet.page.attr? hn]
  have hhints : d'.hints n q = d.hints n q := by
    unfold hints
    rw [hquiet.parserFlags, hquiet.page.hints hn]
  have halike : (d.cascadeInputs list n q parent).Alike (d'.cascadeInputs list n q parent) := by
    refine ⟨hn, hquiet.page.sameView, rfl, rfl, rfl, ?_, hattribute, hhints, hquiet.registered,
      hquiet.medium⟩
    show d'.applicable list = d.applicable list
    rw [applicable, applicable, hquiet.medium]
  rw [Document.computeAnew, Document.computeAnew, hread.1, hread.2, hquiet.cascade,
    hlawful _ _ halike]

theorem Quiet.styleAnew (hquiet : Quiet d d') (hlawful : d.cascade.Lawful)
    (hlist : d.sheets.list.isSome = true) (hn : d.page.isElement n = true) :
    d'.styleAnew serial n q = d.styleAnew serial n q := by
  refine styleAnew_congr ?_ hquiet.page.ancestorElements fun m hm pseudo parent => ?_
  · rw [hquiet.page.isElement hn, hn]
  · exact hquiet.computeAnew hlawful hlist hm parent

theorem isElement_of_styleAnew {style : ComputedStyle}
    (h : d.styleAnew serial n q = some style) : d.page.isElement n = true := by
  unfold Document.styleAnew at h
  split at h
  · assumption
  · cases h

theorem Current.quiet (h : d.Current) (hquiet : Quiet d d') : d'.Current := by
  refine ⟨hquiet.cascade ▸ h.lawful, ?_, ?_, ?_, ?_⟩
  · exact fun x hx => h.serial_pos x (hquiet.styles hx)
  · intro x hx
    rw [hquiet.serial]
    exact h.serial_le x (hquiet.styles hx)
  · intro x hx hs
    rw [hquiet.serial] at hs
    rw [hquiet.list]
    exact h.list x (hquiet.styles hx) hs
  · intro x hx hs
    rw [hquiet.serial] at hs ⊢
    have hx := hquiet.styles hx
    have hanew := h.anew x hx hs
    rw [hquiet.styleAnew h.lawful (h.list x hx hs) (isElement_of_styleAnew hanew), hanew]

/-! ## Reading the list of style sheets -/

theorem list_readSheets : d.readSheets.2.sheets.list = some d.readSheets.1 := by
  unfold readSheets
  split
  · assumption
  · rfl

theorem readSheets_withCache (cache : StyleCache) :
    ({ d with cache } : Document).readSheets.1 = d.readSheets.1 := by
  unfold readSheets
  cases d.sheets.list <;> rfl

theorem readSheets_again : d.readSheets.2.readSheets.1 = d.readSheets.1 := by
  rw [readSheets, list_readSheets]

/-- Reading leaves what styles are computed from. -/
theorem Reads.computeAnew (hreads : Reads d d') (parent : Option ComputedStyle) :
    d'.computeAnew serial n q parent = d.computeAnew serial n q parent := by
  have hsame : d'.readSheets.1 = d.readSheets.1 ∧
      ∀ list, d'.cascade (d'.cascadeInputs list n q parent) =
        d.cascade (d.cascadeInputs list n q parent) := by
    cases hreads with
    | styles cache => exact ⟨readSheets_withCache cache, fun _ => rfl⟩
    | list cache =>
      refine ⟨(readSheets_withCache cache).trans readSheets_again, fun list => ?_⟩
      obtain ⟨sheets, state, he⟩ := readSheets_frame d
      rw [he]
      rfl
  rw [Document.computeAnew, Document.computeAnew, hsame.1, hsame.2]

theorem Reads.styleAnew (hreads : Reads d d') :
    d'.styleAnew serial n q = d.styleAnew serial n q := by
  refine styleAnew_congr ?_ (fun _ => ?_) fun _ _ _ parent => hreads.computeAnew parent
  · rw [hreads.page]
  · rw [hreads.page]

theorem Reads.cascade (hreads : Reads d d') : d'.cascade = d.cascade := by
  cases hreads with
  | styles => rfl
  | list =>
    obtain ⟨sheets, state, he⟩ := readSheets_frame d
    rw [he]

/-- Other styles may be kept as long as those of the serial are what is computed. -/
theorem Current.reads (h : d.Current) (hreads : Reads d d')
    (hserial : ∀ x ∈ d'.cache.styles, 0 < x.2.style.serial ∧ x.2.style.serial ≤ d'.serial)
    (hanew : ∀ x ∈ d'.cache.styles, x.2.style.serial = d'.serial →
      d'.sheets.list.isSome = true ∧ d.styleAnew d'.serial x.1.1 x.1.2 = some x.2.style) :
    d'.Current := by
  refine ⟨hreads.cascade ▸ h.lawful, fun x hx => (hserial x hx).1, fun x hx => (hserial x hx).2,
    fun x hx hs => (hanew x hx hs).1, fun x hx hs => ?_⟩
  rw [hreads.styleAnew]
  exact (hanew x hx hs).2

theorem current_readSheets (h : d.Current) : d.readSheets.2.Current := by
  obtain ⟨sheets, state, he⟩ := readSheets_frame d
  have hlist : d.readSheets.2.sheets.list.isSome = true := by
    rw [list_readSheets]
    rfl
  refine h.reads (Reads.styles d.cache).readSheets ?_ ?_
  · rw [he]
    exact fun x hx => ⟨h.serial_pos x hx, h.serial_le x hx⟩
  · intro x hx hs
    refine ⟨hlist, ?_⟩
    rw [he] at hx hs ⊢
    exact h.anew x hx hs

/-! ## Computing -/

section Compute

variable (d n q) (parent : Option StyleObject)

theorem style_compute : (d.compute n q parent).1.style =
    d.computeAnew d.serial n q (parent.map (·.style)) := by
  show ComputedStyle.mk (d.readSheets.2.cascade (d.readSheets.2.cascadeInputs d.readSheets.1 n q _))
    _ q d.readSheets.2.serial = _
  obtain ⟨sheets, state, he⟩ := readSheets_frame d
  rw [he]
  rfl

theorem serial_compute : (d.compute n q parent).2.serial = d.serial := by
  show d.readSheets.2.serial = d.serial
  obtain ⟨sheets, state, he⟩ := readSheets_frame d
  rw [he]
  rfl

theorem list_compute : (d.compute n q parent).2.sheets.list = some d.readSheets.1 :=
  list_readSheets

theorem mem_styles_add {c : StyleCache} {parentId : Option Nat} {style : ComputedStyle}
    {x : (NodeId × Option PseudoElement) × StyleObject}
    (hx : x ∈ (c.add n q parentId style).2.styles) :
    x = ((n, q), (c.add n q parentId style).1) ∨ x ∈ c.styles := by
  unfold StyleCache.add at hx ⊢
  dsimp only at hx ⊢
  split at hx
  · rcases List.mem_cons.mp hx with hx | hx
    · exact .inl hx
    · exact .inr (List.mem_of_mem_filter hx)
  · exact .inr hx

/-- What is kept after a style was computed: it, and what was kept before. -/
theorem mem_styles_compute {x : (NodeId × Option PseudoElement) × StyleObject}
    (hx : x ∈ (d.compute n q parent).2.cache.styles) :
    x = ((n, q), (d.compute n q parent).1) ∨ x ∈ d.cache.styles := by
  have hstyles : d.readSheets.2.cache.styles = d.cache.styles := by
    obtain ⟨sheets, state, he⟩ := readSheets_frame d
    rw [he]
  rw [← hstyles]
  exact mem_styles_add n q hx

end Compute

theorem current_compute (h : d.Current) (hpos : 0 < d.serial) {parent : Option StyleObject}
    (hstyle : d.styleAnew d.serial n q =
      some (d.computeAnew d.serial n q (parent.map (·.style)))) :
    (d.compute n q parent).2.Current := by
  have hlist : (d.compute n q parent).2.sheets.list.isSome = true := by
    rw [list_compute]
    rfl
  refine h.reads ((Reads.styles d.cache).compute n q parent) (fun x hx => ?_) fun x hx hs => ?_
  · rw [serial_compute]
    rcases mem_styles_compute d n q parent hx with rfl | hx
    · rw [style_compute]
      exact ⟨hpos, Nat.le_refl _⟩
    · exact ⟨h.serial_pos x hx, h.serial_le x hx⟩
  · refine ⟨hlist, ?_⟩
    rw [serial_compute] at hs ⊢
    rcases mem_styles_compute d n q parent hx with rfl | hx
    · rw [style_compute]
      exact hstyle
    · exact h.anew x hx hs

/-! ## Reading a style -/

/-- A style that is found is one of the serial. -/
theorem mem_of_lookup? {c : StyleCache} {object : StyleObject}
    (h : c.lookup? n q = some object) :
    ((n, q), object) ∈ c.styles ∧ object.style.serial = c.serial := by
  unfold StyleCache.lookup? at h
  obtain ⟨hfound, hserial⟩ := Option.filter_eq_some_iff.mp h
  obtain ⟨⟨key, object'⟩, hfind, rfl⟩ := Option.map_eq_some_iff.mp hfound
  obtain rfl : key = (n, q) := by simpa using List.find?_some hfind
  exact ⟨List.mem_of_find?_eq_some hfind, by simpa using hserial⟩

/-- The outcome of reading a style: it is the one that is computed anew, and the document keeps only
styles that are current. -/
structure Delivers (d : Document) (n : NodeId) (q : Option PseudoElement)
    (r : Option StyleObject × Document) : Prop where
  style : r.1.map (·.style) = d.styleAnew d.serial n q
  serial : r.2.serial = d.serial
  reads : Reads d r.2
  current : r.2.Current

theorem delivers_lookup (h : d.Current) {object : StyleObject}
    (hfound : d.cache.lookup? n q = some object) : Delivers d n q (some object, d) := by
  obtain ⟨hmem, hserial⟩ := mem_of_lookup? hfound
  exact ⟨(h.anew _ hmem hserial).symm, rfl, .styles d.cache, h⟩

/-- A style is computed after that of its parent was read. -/
theorem delivers_compute {r : Option StyleObject × Document} (hpos : 0 < d.serial)
    (hreads : Reads d r.2) (hserial : r.2.serial = d.serial) (hcurrent : r.2.Current)
    (hstyle : d.styleAnew d.serial n q =
      some (d.computeAnew d.serial n q (r.1.map (·.style)))) :
    Delivers d n q (some (r.2.compute n q r.1).1, (r.2.compute n q r.1).2) where
  style := by
    rw [hstyle, Option.map_some, style_compute, hserial, hreads.computeAnew]
  serial := (serial_compute r.2 n q r.1).trans hserial
  reads := hreads.compute n q r.1
  current := by
    refine current_compute hcurrent (hserial ▸ hpos) ?_
    rw [hserial, hreads.styleAnew, hreads.computeAnew, hstyle]

theorem delivers_resolveChain (hvalid : d.page.tree.Valid) (h : d.Current) (hpos : 0 < d.serial)
    (hn : d.page.isElement n = true) :
    Delivers d n none (d.resolveChain (n :: d.page.ancestorElements n)) := by
  -- By induction on the way up; the style of the parent element is read first.
  induction hvalid.acyclic n with
  | intro n _ ih =>
    unfold resolveChain
    split
    next object hfound => exact delivers_lookup h hfound
    next =>
      have hanew := styleAnew_none d.serial hvalid.toSound hn
      rw [Page.ancestorElements_eq hvalid.toSound]
      cases hp : d.page.parentElement? n with
      | none =>
        rw [hp] at hanew
        exact delivers_compute (r := (none, d)) hpos (.styles d.cache) rfl h hanew
      | some p =>
        have hp' := Option.filter_eq_some_iff.mp hp
        have hparent := ih p hp'.1 hp'.2
        rw [hp, Option.bind_some, ← hparent.style] at hanew
        exact delivers_compute hpos hparent.reads hparent.serial hparent.current hanew

/-- The first read gives the document a serial; no style is kept before that. -/
theorem current_started (h : d.Current) :
    ({ d with cache := d.cache.started } : Document).Current ∧ 0 < d.cache.started.serial := by
  unfold StyleCache.started
  split
  next hzero =>
    refine ⟨h.loud ⟨?_, List.Subset.refl _, rfl, rfl⟩ h.lawful, Nat.one_pos⟩
    show d.cache.serial < 1
    rw [hzero]
    exact Nat.one_pos
  next hne => exact ⟨h, Nat.pos_of_ne_zero hne⟩

theorem delivers_readStyle (hvalid : d.page.tree.Valid) (h : d.Current)
    (hn : d.page.isElement n = true) :
    Delivers { d with cache := d.cache.started } n q (d.readStyle n q) := by
  obtain ⟨hcurrent, hpos⟩ := current_started h
  unfold readStyle
  rw [if_pos hn]
  cases q with
  | none => exact delivers_resolveChain hvalid hcurrent hpos hn
  | some q =>
    dsimp only
    split
    next object hfound => exact delivers_lookup hcurrent hfound
    next =>
      -- The style of a pseudo-element is computed after that of its element was read.
      have hown := delivers_resolveChain (d := { d with cache := d.cache.started }) hvalid hcurrent
        hpos hn
      refine delivers_compute hpos hown.reads hown.serial hown.current ?_
      rw [hown.style]
      exact styleAnew_some q hn

theorem current_readStyle (hvalid : d.page.tree.Valid) (h : d.Current) :
    (d.readStyle n q).2.Current := by
  cases hn : d.page.isElement n with
  | true => exact (delivers_readStyle hvalid h hn).current
  | false =>
    unfold readStyle
    rw [hn]
    exact h

/-! ## Steps -/

theorem current_create (doctype : Option String) (o : Options) : (create doctype o).Current where
  lawful := Cascade.initialValues_lawful
  serial_pos _ hx := nomatch hx
  serial_le _ hx := nomatch hx
  list _ hx := nomatch hx
  anew _ hx := nomatch hx

/-- Every step keeps the styles of a document current. -/
theorem step_current (hvalid : d.page.tree.Valid) (h : d.Current)
    (s : Step Cascade.Lawful d d') : d'.Current := by
  have hstale : ∀ {d' : Document} {s : Staleness}, d'.cache = d.cache.stale s →
      d'.cascade.Lawful → d'.Current := fun hs hlawful => h.loud (loud_of_stale hs) hlawful
  have heither : ∀ {d' : Document}, d'.cascade = d.cascade → Quiet d d' ∨ Loud d d' →
      d'.Current := by
    intro d' hcascade hcases
    rcases hcases with hquiet | hloud
    · exact h.quiet hquiet
    · exact h.loud hloud (hcascade ▸ h.lawful)
  cases s with
  | push hdata => exact h.quiet (quiet_push hvalid hdata)
  | detach hp => exact heither (cascade_detach _ _) (detach_cases hvalid hp)
  | attach hcan hroot => exact heither (cascade_attach _ _ _) (attach_cases hvalid hcan hroot)
  | attributes he => exact heither cascade_notify (.inr (loud_withAttributes he))
  | states he => exact hstale (s := .styles) rfl h.lawful
  | text hold hnew => exact heither (cascade_notifyAll _) (withText_cases hvalid hold hnew)
  | url url => exact heither (cascade_withUrl url) (.inr (loud_withUrl url))
  | header | medium | register | rebuild | loader | selectSet | enableSet =>
    exact hstale (s := .sheets) rfl h.lawful
  | cascade hc => exact hstale (s := .sheets) rfl hc
  | readSheets => exact current_readSheets h
  | readStyle => exact current_readStyle hvalid h

theorem run_current (doctype : Option String) (o : Options) (os : List Operation)
    (hc : ∀ c, .setCascade c ∈ os → c.Lawful) :
    ((create doctype o).run os).page.tree.Valid ∧ ((create doctype o).run os).Current :=
  run_valid_induction Cascade.Lawful (fun _ _ => step_current) os hc (create_valid doctype o)
    (current_create doctype o)

/-- The style that a document gives after any operations is the one that would be computed anew,
from the root down, with the serial that the document has then. None is given for a node that is no
element. -/
theorem readStyle_run (doctype : Option String) (o : Options) (os : List Operation)
    (hc : ∀ c, .setCascade c ∈ os → c.Lawful) (n : NodeId) (q : Option PseudoElement) :
    let d := (create doctype o).run os
    let read := d.readStyle n q
    read.1.map (·.style) = d.styleAnew read.2.serial n q ∧
      ∀ style, read.1.map (·.style) = some style →
        ∀ s ∈ style.lineage, s.serial = read.2.serial := by
  obtain ⟨hvalid, hcurrent⟩ := run_current doctype o os hc
  intro d read
  have hread : read.1.map (·.style) = d.styleAnew read.2.serial n q := by
    cases hn : d.page.isElement n with
    | true =>
      have hdelivers : Delivers { d with cache := d.cache.started } n q read :=
        delivers_readStyle hvalid hcurrent hn
      rw [hdelivers.style, hdelivers.serial]
      exact (Reads.styles d.cache.started).styleAnew
    | false =>
      have hnone : read = (none, d) := by
        show d.readStyle n q = _
        unfold readStyle
        rw [hn]
        rfl
      rw [hnone, styleAnew, hn]
      rfl
  refine ⟨hread, ?_⟩
  rw [hread]
  exact serial_of_styleAnew

/-- The style of a paragraph is read, its attribute changes, and it is read again with that of a
pseudo-element. The last read computes nothing: all it gives was kept. -/
theorem readStyle_run_declared :
    let os : List Operation := [.setCascade .declared, .createElement "div",
      .createElement "style", .createText "p \x7b color: red \x7d", .createElement "p",
      .insertBefore Tree.root 1 none, .insertBefore 1 2 none, .insertBefore 2 3 none,
      .insertBefore 1 4 none, .readStyle 4 none, .setAttribute 4 "style" "width: 1px",
      .readStyle 4 (some .before)]
    let d := (create none .default).run os
    let read := d.readStyle 4 none
    (∀ c, .setCascade c ∈ os → c.Lawful) ∧ d.page.isElement 4 = true ∧
      d.readSheets.1.sheets.length = 1 ∧ (d.cache.computed, read.2.cache.computed) = (5, 5) ∧
      read.1.map (·.style) = d.styleAnew read.2.serial 4 none ∧
      ∀ style, read.1.map (·.style) = some style →
        ∀ s ∈ style.lineage, s.serial = read.2.serial := by
  intro os d read
  have hlawful : ∀ c, .setCascade c ∈ os → c.Lawful := by
    intro c hc
    obtain rfl : c = .declared := by simpa [os] using hc
    exact Cascade.declared_lawful
  have hsheets : d.readSheets.1.sheets.length = 1 := by decide +kernel
  have hkept : (d.cache.computed, read.2.cache.computed) = (5, 5) := by decide +kernel
  exact ⟨hlawful, by decide +kernel, hsheets, hkept,
    readStyle_run none .default os hlawful 4 none⟩

end Document

end StyleTree
