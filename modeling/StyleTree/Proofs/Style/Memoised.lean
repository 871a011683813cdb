import StyleTree.Proofs.Style.Dated

/-!
# Styles are kept and inherited as objects

A document that keeps styles keeps every one that it computes, until all are stale. `Memoised` says
what is kept: each object under the one element and pseudo-element that it was computed for, along
with the object of the element that it inherits from. While the serial stays, what is kept stays,
and an object is made only where none is kept: `Continues` relates the documents of such a time.
-/

namespace StyleTree

/-- The element whose style the element or its pseudo-element inherits from. -/
def Page.styleSource? (p : Page) (n : NodeId) : Option PseudoElement → Option NodeId
  | none => p.parentElement? n
  | some _ => some n

theorem Page.SameElements.styleSource? {p q : Page} (h : p.SameElements q) {n : NodeId}
    (hn : p.isElement n = true) (pseudo : Option PseudoElement) :
    q.styleSource? n pseudo = p.styleSource? n pseudo := by
  cases pseudo with
  | none => exact h.parentElement? hn
  | some _ => rfl

/-! ## The cache as a table -/

namespace StyleCache

variable {c : StyleCache} {n m : NodeId} {q r : Option PseudoElement} {parentId : Option Nat}
  {style : ComputedStyle}

theorem lookup?_add_self (henabled : c.enabled = true) (hserial : style.serial = c.serial) :
    (c.add n q parentId style).2.lookup? n q = some (c.add n q parentId style).1 := by
  simp [add, lookup?, henabled, hserial]

theorem lookup?_add_other (h : (m, r) ≠ (n, q)) :
    (c.add n q parentId style).2.lookup? m r = c.lookup? m r := by
  unfold add
  dsimp only
  split
  · have hkeep : ∀ x : (NodeId × Option PseudoElement) × StyleObject, x.1 = (m, r) →
        (x.1 != (n, q)) = true := by
      intro x hx
      simpa [hx] using h
    rw [← c.lookup?_filter hkeep]
    unfold lookup?
    rw [List.find?_cons_of_neg (by simpa using h.symm)]
  · rfl

end StyleCache

namespace Document

variable {d d' d'' : Document} {n m : NodeId} {q r : Option PseudoElement}
  {parent : Option StyleObject}

theorem lookup?_readSheets (d : Document) (n : NodeId) (q : Option PseudoElement) :
    d.readSheets.2.cache.lookup? n q = d.cache.lookup? n q := by
  obtain ⟨state, he⟩ := cache_readSheets d
  rw [he]
  rfl

theorem enabled_readSheets (d : Document) : d.readSheets.2.cache.enabled = d.cache.enabled := by
  obtain ⟨state, he⟩ := cache_readSheets d
  rw [he]

theorem computed_readSheets (d : Document) :
    d.readSheets.2.cache.computed = d.cache.computed := by
  obtain ⟨state, he⟩ := cache_readSheets d
  rw [he]

theorem enabled_compute : (d.compute n q parent).2.cache.enabled = d.cache.enabled :=
  enabled_readSheets d

/-- Objects are numbered as they are made. -/
theorem id_compute : (d.compute n q parent).1.id = d.cache.computed :=
  computed_readSheets d

theorem computed_compute :
    (d.compute n q parent).2.cache.computed = d.cache.computed + 1 :=
  congrArg (· + 1) (computed_readSheets d)

theorem lookup?_compute_self (n : NodeId) (q : Option PseudoElement) (parent : Option StyleObject)
    (henabled : d.cache.enabled = true) :
    (d.compute n q parent).2.cache.lookup? n q = some (d.compute n q parent).1 :=
  StyleCache.lookup?_add_self ((enabled_readSheets d).trans henabled) rfl

theorem lookup?_compute_other (h : (m, r) ≠ (n, q)) :
    (d.compute n q parent).2.cache.lookup? m r = d.cache.lookup? m r := by
  rw [← lookup?_readSheets d m r]
  exact StyleCache.lookup?_add_other h

/-- Resolving a chain keeps styles of its elements alone. -/
theorem lookup?_resolveChain {chain : List NodeId} (h : q = none → n ∉ chain) :
    (d.resolveChain chain).2.cache.lookup? n q = d.cache.lookup? n q := by
  induction chain with
  | nil => rfl
  | cons m ancestors ih =>
    unfold resolveChain
    split
    · rfl
    · have hne : (n, q) ≠ (m, none) := by
        rintro ⟨⟩
        exact h rfl List.mem_cons_self
      refine (lookup?_compute_other hne).trans (ih fun hq hn => ?_)
      exact h hq (List.mem_cons_of_mem m hn)

/-! ## What is kept -/

/-- The object inherits from the style that is kept for the element, or from none. -/
def Inherits (d : Document) (object : StyleObject) : Option NodeId → Prop
  | none => object.parentId = none ∧ object.style.parent = none
  | some source => ∃ parent, d.cache.lookup? source none = some parent ∧
      object.parentId = some parent.id ∧ object.style.parent = some parent.style

theorem Inherits.mono {object : StyleObject} {source : Option NodeId}
    (hkept : ∀ n q x, d.cache.lookup? n q = some x → d'.cache.lookup? n q = some x)
    (h : d.Inherits object source) : d'.Inherits object source := by
  cases source with
  | none => exact h
  | some source =>
    obtain ⟨parent, hparent, hinherits⟩ := h
    exact ⟨parent, hkept source none parent hparent, hinherits⟩

/-- Styles are kept, those of the serial for elements alone, each object under one key, and along
with the object that it inherits from. -/
structure Memoised (d : Document) : Prop extends Dated d where
  enabled : d.cache.enabled = true
  element : ∀ x ∈ d.cache.styles, x.2.style.serial = d.serial → d.page.isElement x.1.1 = true
  id_lt : ∀ n q object, d.cache.lookup? n q = some object → object.id < d.cache.computed
  id_inj : ∀ n q object m r other, d.cache.lookup? n q = some object →
    d.cache.lookup? m r = some other → object.id = other.id → n = m ∧ q = r
  inherits : ∀ n q object, d.cache.lookup? n q = some object →
    d.Inherits object (d.page.styleSource? n q)

theorem Memoised.isElement (h : d.Memoised) {object : StyleObject}
    (hfound : d.cache.lookup? n q = some object) : d.page.isElement n = true := by
  obtain ⟨hmem, hserial⟩ := mem_of_lookup? hfound
  exact h.element _ hmem hserial

/-- The styles that were computed on the way from one document to the other, in order, with the
keys that they were computed for: for each key at most one, and only where none was kept. -/
structure Computes (d d' : Document)
    (made : List ((NodeId × Option PseudoElement) × StyleObject)) : Prop where
  computed : d'.cache.computed = d.cache.computed + made.length
  ids : made.map (·.2.id) = List.range' d.cache.computed made.length
  keys : (made.map (·.1)).Nodup
  missing : ∀ x ∈ made, d.cache.lookup? x.1.1 x.1.2 = none
  kept : ∀ x ∈ made, d'.cache.lookup? x.1.1 x.1.2 = some x.2

theorem Computes.nothing (h : d'.cache.computed = d.cache.computed) : Computes d d' [] :=
  ⟨h, rfl, List.nodup_nil, List.forall_mem_nil _, List.forall_mem_nil _⟩

/-- What is kept stays, and so does what it was computed for. -/
structure Continues (d d' : Document) : Prop where
  kept : ∀ n q object, d.cache.lookup? n q = some object → d'.cache.lookup? n q = some object
  element : ∀ n, d.page.isElement n = true → d'.page.isElement n = true
  source : ∀ n q, d.page.isElement n = true → d'.page.styleSource? n q = d.page.styleSource? n q
  made : ∃ made, Computes d d' made

namespace Continues

theorem refl (d : Document) : Continues d d where
  kept _ _ _ hfound := hfound
  element _ hn := hn
  source _ _ _ := rfl
  made := ⟨[], .nothing rfl⟩

theorem trans (h : Continues d d') (h' : Continues d' d'') : Continues d d'' where
  kept n q object hfound := h'.kept n q object (h.kept n q object hfound)
  element n hn := h'.element n (h.element n hn)
  source n q hn := (h'.source n q (h.element n hn)).trans (h.source n q hn)
  made := by
    obtain ⟨made, hmade⟩ := h.made
    obtain ⟨made', hmade'⟩ := h'.made
    refine ⟨made ++ made', ?_, ?_, ?_, ?_, ?_⟩
    · rw [hmade'.computed, hmade.computed, List.length_append, Nat.add_assoc]
    · rw [List.map_append, hmade.ids, hmade'.ids, hmade.computed, List.length_append,
        List.range'_append_1]
    · -- What was made first is kept, so nothing is made for its keys.
      rw [List.map_append, List.nodup_append']
      refine ⟨hmade.keys, hmade'.keys, fun key hkey hkey' => ?_⟩
      obtain ⟨x, hx, rfl⟩ := List.mem_map.mp hkey
      obtain ⟨y, hy, hyx⟩ := List.mem_map.mp hkey'
      have hmissing := hmade'.missing y hy
      rw [hyx, hmade.kept x hx] at hmissing
      cases hmissing
    · refine List.forall_mem_append.mpr ⟨hmade.missing, fun x hx => ?_⟩
      cases hfound : d.cache.lookup? x.1.1 x.1.2 with
      | none => rfl
      | some object =>
        have hmissing := hmade'.missing x hx
        rw [h.kept _ _ _ hfound] at hmissing
        cases hmissing
    · refine List.forall_mem_append.mpr ⟨fun x hx => ?_, hmade'.kept⟩
      exact h'.kept _ _ _ (hmade.kept x hx)

end Continues

/-! ## Changes -/

theorem Memoised.quiet (h : d.Memoised) (hquiet : Quiet d d') :
    d'.Memoised ∧ Continues d d' := by
  have helement : ∀ x ∈ d'.cache.styles, x.2.style.serial = d'.serial →
      d.page.isElement x.1.1 = true := fun x hx hs =>
    h.element x (hquiet.styles hx) (hs.trans hquiet.serial)
  -- What is found after the change was found before it.
  have hfound : ∀ {n q object}, d'.cache.lookup? n q = some object →
      d.cache.lookup? n q = some object := by
    intro n q object hfound
    obtain ⟨hmem, hserial⟩ := mem_of_lookup? hfound
    rwa [hquiet.lookup? n q (helement _ hmem hserial)] at hfound
  have hkept : ∀ n q object, d.cache.lookup? n q = some object →
      d'.cache.lookup? n q = some object := by
    intro n q object hfound
    rwa [hquiet.lookup? n q (h.isElement hfound)]
  constructor
  · refine ⟨h.toDated.quiet hquiet, hquiet.enabled.trans h.enabled, fun x hx hs => ?_, ?_, ?_, ?_⟩
    · exact hquiet.page.isElement (helement x hx hs)
    · intro n q object hobject
      rw [hquiet.computed]
      exact h.id_lt n q object (hfound hobject)
    · intro n q object m r other hobject hother
      exact h.id_inj n q object m r other (hfound hobject) (hfound hother)
    · intro n q object hobject
      rw [hquiet.page.styleSource? (h.isElement (hfound hobject))]
      exact (h.inherits n q object (hfound hobject)).mono hkept
  · exact ⟨hkept, fun n hn => hquiet.page.isElement hn,
      fun n q hn => hquiet.page.styleSource? hn q, [], .nothing hquiet.computed⟩

/-- After a loud change nothing is found. -/
theorem Memoised.loud (h : d.Memoised) (hloud : Loud d d') : d'.Memoised := by
  have hold : ∀ x ∈ d'.cache.styles, x.2.style.serial ≠ d'.serial := by
    intro x hx
    have hle := h.serial_le x (hloud.styles hx)
    exact (Nat.lt_of_le_of_lt hle hloud.serial).ne
  have hnone : ∀ n q object, d'.cache.lookup? n q ≠ some object := by
    intro n q object hfound
    obtain ⟨hmem, hserial⟩ := mem_of_lookup? hfound
    exact hold _ hmem hserial
  refine ⟨h.toDated.loud hloud, hloud.enabled.trans h.enabled, ?_, ?_, ?_, ?_⟩
  · exact fun x hx hs => absurd hs (hold x hx)
  · exact fun n q object hfound => absurd hfound (hnone n q object)
  · exact fun n q object _ _ _ hfound => absurd hfound (hnone n q object)
  · exact fun n q object hfound => absurd hfound (hnone n q object)

theorem Memoised.readSheets (h : d.Memoised) :
    d.readSheets.2.Memoised ∧ Continues d d.readSheets.2 := by
  have hdated := h.toDated.readSheets
  obtain ⟨sheets, state, he⟩ := readSheets_frame d
  rw [he] at hdated ⊢
  constructor
  · exact ⟨hdated, h.enabled, h.element, h.id_lt, h.id_inj, h.inherits⟩
  · exact ⟨fun _ _ _ hfound => hfound, fun _ hn => hn, fun _ _ _ => rfl, [], .nothing rfl⟩

/-! ## Computing -/

/-- A style that is not kept is computed for an element, from the one that is kept for its
source. -/
theorem Memoised.compute (h : d.Memoised) (hpos : 0 < d.serial) (hn : d.page.isElement n = true)
    (hmissing : d.cache.lookup? n q = none)
    (hsource : d.Inherits (d.compute n q parent).1 (d.page.styleSource? n q)) :
    (d.compute n q parent).2.Memoised ∧ Continues d (d.compute n q parent).2 := by
  have hpage : (d.compute n q parent).2.page = d.page :=
    ((Reads.styles d.cache).compute n q parent).page
  have hself := lookup?_compute_self n q parent h.enabled
  have hkept : ∀ m r x, d.cache.lookup? m r = some x →
      (d.compute n q parent).2.cache.lookup? m r = some x := by
    intro m r x hfound
    rw [lookup?_compute_other, hfound]
    rintro ⟨⟩
    rw [hmissing] at hfound
    cases hfound
  -- What is found afterwards is the new object under its key, or was found before.
  have hcases : ∀ {m r x}, (d.compute n q parent).2.cache.lookup? m r = some x →
      (m, r) = (n, q) ∧ x = (d.compute n q parent).1 ∨ d.cache.lookup? m r = some x := by
    intro m r x hfound
    by_cases hkey : (m, r) = (n, q)
    · cases hkey
      rw [hself] at hfound
      exact .inl ⟨rfl, (Option.some.inj hfound).symm⟩
    · rw [lookup?_compute_other hkey] at hfound
      exact .inr hfound
  have hid : (d.compute n q parent).1.id = d.cache.computed := id_compute
  constructor
  · refine ⟨h.toDated.compute hpos n q parent, enabled_compute.trans h.enabled, ?_, ?_, ?_, ?_⟩
    · intro x hx hs
      rw [hpage]
      rw [serial_compute] at hs
      rcases mem_styles_compute d n q parent hx with rfl | hx
      · exact hn
      · exact h.element x hx hs
    · intro m r x hfound
      rw [computed_compute]
      rcases hcases hfound with ⟨-, rfl⟩ | hfound
      · omega
      · exact Nat.lt_succ_of_lt (h.id_lt m r x hfound)
    · intro m r x m' r' x' hfound hfound' heq
      rcases hcases hfound with ⟨hkey, rfl⟩ | hfound <;>
        rcases hcases hfound' with ⟨hkey', rfl⟩ | hfound'
      · simpa using hkey.trans hkey'.symm
      · have := h.id_lt m' r' x' hfound'
        omega
      · have := h.id_lt m r x hfound
        omega
      · exact h.id_inj m r x m' r' x' hfound hfound' heq
    · intro m r x hfound
      rw [hpage]
      rcases hcases hfound with ⟨hkey, rfl⟩ | hfound
      · cases hkey
        exact hsource.mono hkept
      · exact (h.inherits m r x hfound).mono hkept
  · refine ⟨hkept, fun _ hm => hpage ▸ hm, fun _ _ _ => hpage ▸ rfl,
      [((n, q), (d.compute n q parent).1)], ?_⟩
    refine ⟨computed_compute, ?_, List.nodup_singleton _, ?_, ?_⟩
    · rw [List.map_singleton, hid]
      rfl
    · exact List.forall_mem_singleton.mpr hmissing
    · exact List.forall_mem_singleton.mpr hself

/-! ## Reading -/

/-- The outcome of reading a style where styles are kept: it is an object that is kept, and what
was kept before is kept still. -/
structure Supplies (d : Document) (n : NodeId) (q : Option PseudoElement)
    (read : Option StyleObject × Document) : Prop where
  page : read.2.page = d.page
  serial : read.2.serial = d.serial
  memoised : read.2.Memoised
  continues : Continues d read.2
  found : read.1.isSome = true ∧ read.2.cache.lookup? n q = read.1

theorem supplies_lookup (h : d.Memoised) {object : StyleObject}
    (hfound : d.cache.lookup? n q = some object) : Supplies d n q (some object, d) :=
  ⟨rfl, rfl, h, .refl d, rfl, hfound⟩

/-- A style is computed after that of its source was read, if it has one. -/
theorem supplies_compute (read : Option StyleObject × Document) (hpage : read.2.page = d.page)
    (hserial : read.2.serial = d.serial) (h : read.2.Memoised) (hcontinues : Continues d read.2)
    (hpos : 0 < d.serial) (hn : d.page.isElement n = true)
    (hmissing : read.2.cache.lookup? n q = none)
    (hsource : read.2.Inherits (read.2.compute n q read.1).1 (d.page.styleSource? n q)) :
    Supplies d n q (some (read.2.compute n q read.1).1, (read.2.compute n q read.1).2) := by
  obtain ⟨hmemoised, hnext⟩ :=
    h.compute (hserial ▸ hpos) (hpage ▸ hn) hmissing (hpage ▸ hsource)
  refine ⟨?_, (serial_compute _ n q _).trans hserial, hmemoised, hcontinues.trans hnext, rfl, ?_⟩
  · exact ((Reads.styles read.2.cache).compute n q read.1).page.trans hpage
  · exact lookup?_compute_self n q read.1 h.enabled

/-- What is computed from an object that is kept inherits from it. -/
theorem Supplies.inherits {read : Option StyleObject × Document} {source : NodeId}
    (h : Supplies d source none read) :
    read.2.Inherits (read.2.compute n q read.1).1 (some source) := by
  obtain ⟨parent, hparent⟩ := Option.isSome_iff_exists.mp h.found.1
  have hfound := h.found.2
  rw [hparent] at hfound ⊢
  exact ⟨parent, hfound, rfl, rfl⟩

theorem supplies_resolveChain (hvalid : d.page.tree.Valid) (h : d.Memoised) (hpos : 0 < d.serial)
    (hn : d.page.isElement n = true) :
    Supplies d n none (d.resolveChain (n :: d.page.ancestorElements n)) := by
  -- By induction on the way up; the style of the parent element is read first.
  induction hvalid.acyclic n with
  | intro n _ ih =>
    unfold resolveChain
    split
    next object hfound => exact supplies_lookup h hfound
    next hmissing =>
      have habove : n ∉ d.page.ancestorElements n := fun hmem =>
        hvalid.not_mem_ancestors n (List.takeWhile_subset _ hmem)
      have hchain : (d.resolveChain (d.page.ancestorElements n)).2.cache.lookup? n none = none :=
        (lookup?_resolveChain fun _ => habove).trans hmissing
      rw [Page.ancestorElements_eq hvalid.toSound] at hchain ⊢
      cases hp : d.page.parentElement? n with
      | none =>
        refine supplies_compute (none, d) rfl rfl h (.refl d) hpos hn hmissing ?_
        show Inherits d _ (d.page.parentElement? n)
        rw [hp]
        exact ⟨rfl, rfl⟩
      | some p =>
        obtain ⟨hp', hpe⟩ := Option.filter_eq_some_iff.mp hp
        have hparent := ih p hp' hpe
        rw [hp] at hchain
        refine supplies_compute _ hparent.page hparent.serial hparent.memoised hparent.continues
          hpos hn hchain ?_
        show Inherits _ _ (d.page.parentElement? n)
        rw [hp]
        exact hparent.inherits

theorem supplies_readStyle (hvalid : d.page.tree.Valid) (h : d.Memoised) (hserial : d.serial ≠ 0)
    (hn : d.page.isElement n = true) : Supplies d n q (d.readStyle n q) := by
  have hpos : 0 < d.serial := Nat.pos_of_ne_zero hserial
  have hchain := supplies_resolveChain hvalid h hpos hn
  unfold readStyle
  rw [if_pos hn, show { d with cache := d.cache.started } = d from started_eq_self hserial]
  cases q with
  | none => exact hchain
  | some q =>
    dsimp only
    split
    next object hfound => exact supplies_lookup h hfound
    next hmissing =>
      -- The style of a pseudo-element is computed after that of its element was read.
      have hstill : (d.resolveChain (n :: d.page.ancestorElements n)).2.cache.lookup? n (some q) =
          none := by
        rw [lookup?_resolveChain, hmissing]
        exact nofun
      exact supplies_compute _ hchain.page hchain.serial hchain.memoised hchain.continues hpos hn
        hstill hchain.inherits

end Document

end StyleTree
