import StyleTree.Proofs.Style.Memoised

/-!
# Reads share their styles

While the serial of a document that keeps styles stays, every style is computed once, whatever is
read, and however often: all reads of one element and pseudo-element give one object, and it
inherits from the object that a read of its source gives. The serial never falls, so the documents
of such a time all stand between the first and the last of them.
-/

namespace StyleTree

namespace Document

variable {d d' : Document}

/-! ## Steps and runs -/

theorem create_memoised (doctype : Option String) (o : Options) :
    (create doctype { o with styleCache := true }).Memoised where
  toDated := create_dated doctype { o with styleCache := true }
  enabled := rfl
  element _ hx := nomatch hx
  id_lt _ _ _ hfound := nomatch hfound
  id_inj _ _ _ _ _ _ hfound := nomatch hfound
  inherits _ _ _ hfound := nomatch hfound

/-- The serial is no lower, and if it is the same then what is kept stays. -/
def Follows (d d' : Document) : Prop :=
  d.serial ≤ d'.serial ∧ (d'.serial = d.serial → Continues d d')

theorem Follows.refl (d : Document) : Follows d d :=
  ⟨Nat.le_refl _, fun _ => .refl d⟩

theorem Follows.trans {d'' : Document} (h : Follows d d') (h' : Follows d' d'') :
    Follows d d'' := by
  obtain ⟨hle, hsame⟩ := h
  obtain ⟨hle', hsame'⟩ := h'
  exact ⟨hle.trans hle', fun hs => (hsame (by omega)).trans (hsame' (by omega))⟩

theorem Follows.of_lt (h : d.serial < d'.serial) : Follows d d' :=
  ⟨h.le, fun hs => absurd hs h.ne'⟩

/-- No style is found before the document has a serial. -/
theorem Memoised.started (h : d.Memoised) :
    d.started.Memoised ∧ d.started.serial ≠ 0 ∧ Follows d d.started := by
  have hne : d.started.serial ≠ 0 := StyleCache.serial_started_ne_zero d.cache
  rcases started_cases d with heq | hloud
  · rw [heq] at hne ⊢
    exact ⟨h, hne, .refl d⟩
  · exact ⟨h.loud hloud, hne, .of_lt hloud.serial⟩

theorem started_readStyle (d : Document) (n : NodeId) (q : Option PseudoElement)
    (hn : d.page.isElement n = true) : d.readStyle n q = d.started.readStyle n q := by
  have hagain : d.started.cache.started = d.cache.started :=
    StyleCache.started_eq_self (StyleCache.serial_started_ne_zero d.cache)
  unfold readStyle
  rw [page_started, hagain]
  split
  · rfl
  · contradiction

theorem Memoised.readStyle (hvalid : d.page.tree.Valid) (h : d.Memoised) (n : NodeId)
    (q : Option PseudoElement) :
    (d.readStyle n q).2.Memoised ∧ Follows d (d.readStyle n q).2 := by
  cases hn : d.page.isElement n with
  | false =>
    rw [readStyle_of_not_element hn]
    exact ⟨h, .refl d⟩
  | true =>
    obtain ⟨hstarted, hne, hfollows⟩ := h.started
    have hread := supplies_readStyle (q := q) (d := d.started) hvalid hstarted hne hn
    rw [started_readStyle d n q hn]
    refine ⟨hread.memoised, hfollows.trans ⟨hread.serial.ge, fun _ => hread.continues⟩⟩

theorem step_memoised {allowed : Cascade → Prop} (hvalid : d.page.tree.Valid) (h : d.Memoised)
    (s : Step allowed d d') : d'.Memoised ∧ Follows d d' := by
  rcases step_cases hvalid s with (hquiet | hloud) | rfl | ⟨n, q, rfl⟩
  · obtain ⟨hmemoised, hcontinues⟩ := h.quiet hquiet
    exact ⟨hmemoised, hquiet.serial.ge, fun _ => hcontinues⟩
  · exact ⟨h.loud hloud, .of_lt hloud.serial⟩
  · obtain ⟨hmemoised, hcontinues⟩ := h.readSheets
    have hserial : d.readSheets.2.serial = d.serial := by
      obtain ⟨state, he⟩ := cache_readSheets d
      rw [serial, he]
      rfl
    exact ⟨hmemoised, hserial.ge, fun _ => hcontinues⟩
  · exact h.readStyle hvalid n q

theorem run_memoised (hvalid : d.page.tree.Valid) (h : d.Memoised) (os : List Operation) :
    (d.run os).page.tree.Valid ∧ (d.run os).Memoised ∧ Follows d (d.run os) := by
  refine run_valid_induction (fun _ => True) (P := fun d' => d'.Memoised ∧ Follows d d') ?_ os
    (fun _ _ => trivial) hvalid ⟨h, .refl d⟩
  rintro d₁ d₂ hvalid ⟨hmemoised, hfollows⟩ s
  obtain ⟨hnext, hstep⟩ := step_memoised hvalid hmemoised s
  exact ⟨hnext, hfollows.trans hstep⟩

theorem perform_memoised (hvalid : d.page.tree.Valid) (h : d.Memoised) (o : Operation) :
    (d.perform o).page.tree.Valid ∧ (d.perform o).Memoised ∧ Follows d (d.perform o) :=
  run_memoised hvalid h [o]

/-! ## Reads -/

/-- A read of a style that gave an object, and the element whose style it inherits from. -/
structure StyleRead where
  node : NodeId
  pseudo : Option PseudoElement
  object : StyleObject
  source : Option NodeId

/-- The reads among operations that gave an object, in order. -/
def styleReads (d : Document) : List Operation → List StyleRead
  | [] => []
  | .readStyle n q :: os =>
    (d.readStyle n q).1.toList.map (⟨n, q, ·, d.page.styleSource? n q⟩) ++
      (d.perform (.readStyle n q)).styleReads os
  | o :: os => (d.perform o).styleReads os

theorem mem_styleReads_cons {r : StyleRead} {o : Operation} {os : List Operation}
    (hr : r ∈ d.styleReads (o :: os)) :
    (o = .readStyle r.node r.pseudo ∧ (d.readStyle r.node r.pseudo).1 = some r.object ∧
        r.source = d.page.styleSource? r.node r.pseudo) ∨
      r ∈ (d.perform o).styleReads os := by
  unfold styleReads at hr
  split at hr
  · contradiction
  next n q os' heq =>
    cases heq
    rcases List.mem_append.mp hr with hr | hr
    · obtain ⟨object, hobject, rfl⟩ := List.mem_map.mp hr
      exact .inl ⟨rfl, Option.mem_toList.mp hobject, rfl⟩
    · exact .inr hr
  next heq =>
    cases heq
    exact .inr hr

/-- What was read is kept as long as the serial stays, under what it was read for. -/
structure IsKept (d : Document) (r : StyleRead) : Prop where
  found : d.cache.lookup? r.node r.pseudo = some r.object
  source : d.page.styleSource? r.node r.pseudo = r.source

theorem isKept_of_mem_styleReads {os : List Operation} (hvalid : d.page.tree.Valid)
    (h : d.Memoised) (hpos : d.serial ≠ 0) (hserial : (d.run os).serial = d.serial)
    {r : StyleRead} (hr : r ∈ d.styleReads os) : (d.run os).IsKept r := by
  induction os generalizing d with
  | nil => cases hr
  | cons o os ih =>
    obtain ⟨hvalid', h', hfirst⟩ := perform_memoised hvalid h o
    obtain ⟨-, -, hrest⟩ := run_memoised hvalid' h' os
    have hlast : ((d.perform o).run os).serial = d.serial := hserial
    -- The serial is the same after the first operation as well.
    have hmid : (d.perform o).serial = d.serial := by
      have hle := hfirst.1
      have hle' := hrest.1
      omega
    show ((d.perform o).run os).IsKept r
    rcases mem_styleReads_cons hr with ⟨rfl, hobject, hsource⟩ | hr
    · have hcontinues := hrest.2 (hlast.trans hmid.symm)
      have hn : d.page.isElement r.node = true := by
        by_contra hn
        rw [readStyle_of_not_element (Bool.eq_false_iff.mpr hn)] at hobject
        cases hobject
      have hread := supplies_readStyle (q := r.pseudo) hvalid h hpos hn
      have hfound := hread.found.2
      rw [hobject] at hfound
      constructor
      · exact hcontinues.kept _ _ _ hfound
      · have hpage : (d.perform (.readStyle r.node r.pseudo)).page = d.page := hread.page
        rw [hcontinues.source _ _ (hpage ▸ hn), hpage, hsource]
    · exact ih hvalid' h' (hmid ▸ hpos) (hlast.trans hmid.symm) hr

/-- The reads among the operations share what they give: one object for each element and
pseudo-element, which inherits from the one of its source, and is computed once. -/
structure SharesStyles (d : Document) (os : List Operation) : Prop where
  same : ∀ r ∈ d.styleReads os, ∀ s ∈ d.styleReads os,
    r.node = s.node → r.pseudo = s.pseudo → r.object = s.object
  distinct : ∀ r ∈ d.styleReads os, ∀ s ∈ d.styleReads os,
    r.object.id = s.object.id → r.node = s.node ∧ r.pseudo = s.pseudo
  orphan : ∀ r ∈ d.styleReads os, r.source = none →
    r.object.parentId = none ∧ r.object.style.parent = none
  /-- The object that is inherited from is the one that is read for the source. -/
  inherits : ∀ r ∈ d.styleReads os, ∀ s ∈ d.styleReads os,
    r.source = some s.node → s.pseudo = none →
      r.object.parentId = some s.object.id ∧ r.object.style.parent = some s.object.style
  /-- All that was computed, sources included, is counted, each key once. -/
  once : ∃ made, Computes d (d.run os) made

/-- From the first read after any operations, as long as the serial stays, reads share their
styles, whatever else is done. -/
theorem sharesStyles_run (doctype : Option String) (o : Options) (os os' : List Operation) :
    let d := ((create doctype { o with styleCache := true }).run os).started
    (d.run os').serial = d.serial → d.SharesStyles os' := by
  intro d hserial
  obtain ⟨hbefore, hmemoised, -⟩ :=
    run_memoised (create_valid doctype _) (create_memoised doctype o) os
  have hvalid : d.page.tree.Valid := hbefore
  obtain ⟨hstarted, hne, -⟩ := hmemoised.started
  have hkept : ∀ r ∈ d.styleReads os', (d.run os').IsKept r := fun r hr =>
    isKept_of_mem_styleReads hvalid hstarted hne hserial hr
  obtain ⟨-, hlast, hfollows⟩ := run_memoised hvalid hstarted os'
  constructor
  case same =>
    intro r hr s hs hnode hpseudo
    have hfound := (hkept r hr).found
    rw [hnode, hpseudo, (hkept s hs).found] at hfound
    exact (Option.some.inj hfound).symm
  case distinct =>
    intro r hr s hs hid
    exact hlast.id_inj _ _ _ _ _ _ (hkept r hr).found (hkept s hs).found hid
  case orphan =>
    intro r hr hsource
    have hinherits := hlast.inherits _ _ _ (hkept r hr).found
    rwa [(hkept r hr).source, hsource] at hinherits
  case inherits =>
    intro r hr s hs hsource hpseudo
    have hinherits := hlast.inherits _ _ _ (hkept r hr).found
    rw [(hkept r hr).source, hsource] at hinherits
    obtain ⟨parent, hparent, hinherits⟩ := hinherits
    have hfound := (hkept s hs).found
    rw [hpseudo, hparent] at hfound
    cases hfound
    exact hinherits
  case once => exact (hfollows.2 hserial).made

/-- Two elements are read, one of them twice and with a pseudo-element; three styles are computed. -/
theorem sharesStyles_run_div :
    let os : List Operation := [.createElement "div", .createElement "p",
      .insertBefore Tree.root 1 none, .insertBefore 1 2 none]
    let os' : List Operation := [.readStyle 2 (some .before), .createText "a", .readStyle 1 none,
      .readStyle 2 none, .readStyle 2 none]
    let d := ((create none { Options.default with styleCache := true }).run os).started
    (d.run os').serial = d.serial ∧
      ((d.styleReads os').length, (d.run os').cache.computed) = (4, 3) ∧ d.SharesStyles os' := by
  intro os os' d
  have hserial : (d.run os').serial = d.serial := by decide +kernel
  exact ⟨hserial, by decide +kernel, sharesStyles_run none .default os os' hserial⟩

end Document

end StyleTree
