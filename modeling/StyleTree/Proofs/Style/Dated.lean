import StyleTree.Proofs.Style.Current

/-!
# When styles were computed

Whatever the cascade does, no style is kept that is of a later serial than the document, and those
of its serial were computed with the list of style sheets that is still there. So the style that is
kept is found under its element without the list being asked for, and the list is built by the same
reads as it would be if no style were kept.
-/

namespace StyleTree

namespace Document

/-- No style is kept of serial zero, or of a later serial than that of the document, and one of its
serial only along with the list of style sheets. -/
structure Dated (d : Document) : Prop where
  serial_pos : ∀ x ∈ d.cache.styles, 0 < x.2.style.serial
  serial_le : ∀ x ∈ d.cache.styles, x.2.style.serial ≤ d.serial
  list : ∀ x ∈ d.cache.styles, x.2.style.serial = d.serial → d.sheets.list.isSome = true

variable {d d' : Document} {n : NodeId} {q : Option PseudoElement}

/-- The first read of a style is a loud change, if no change came before it. -/
theorem started_cases (d : Document) : d.started = d ∨ Loud d d.started := by
  by_cases hzero : d.cache.serial = 0
  · have he : d.started = { d with cache := { d.cache with serial := 1 } } := by
      rw [started, StyleCache.started, if_pos hzero]
    right
    rw [he]
    refine ⟨?_, List.Subset.refl _, rfl, rfl⟩
    show d.cache.serial < 1
    omega
  · exact .inl (started_eq_self hzero)

namespace Dated

theorem loud (h : d.Dated) (hloud : Loud d d') : d'.Dated := by
  have hlt : ∀ x ∈ d'.cache.styles, x.2.style.serial < d'.serial := fun x hx =>
    Nat.lt_of_le_of_lt (h.serial_le x (hloud.styles hx)) hloud.serial
  constructor
  · exact fun x hx => h.serial_pos x (hloud.styles hx)
  · exact fun x hx => (hlt x hx).le
  · exact fun x hx hs => absurd hs (hlt x hx).ne

theorem quiet (h : d.Dated) (hquiet : Quiet d d') : d'.Dated := by
  constructor
  · exact fun x hx => h.serial_pos x (hquiet.styles hx)
  · intro x hx
    rw [hquiet.serial]
    exact h.serial_le x (hquiet.styles hx)
  · intro x hx hs
    rw [hquiet.serial] at hs
    rw [hquiet.list]
    exact h.list x (hquiet.styles hx) hs

theorem readSheets (h : d.Dated) : d.readSheets.2.Dated := by
  have hlist := d.list_readSheets_isSome
  obtain ⟨sheets, state, he⟩ := readSheets_frame d
  rw [he] at hlist ⊢
  exact ⟨h.serial_pos, h.serial_le, fun _ _ _ => hlist⟩

theorem compute (h : d.Dated) (hpos : 0 < d.serial) (n : NodeId) (q : Option PseudoElement)
    (parent : Option StyleObject) : (d.compute n q parent).2.Dated := by
  constructor
  · intro x hx
    rcases mem_styles_compute d n q parent hx with rfl | hx
    · rw [style_compute]
      exact hpos
    · exact h.serial_pos x hx
  · intro x hx
    rw [serial_compute]
    rcases mem_styles_compute d n q parent hx with rfl | hx
    · rw [style_compute]
      exact Nat.le_refl _
    · exact h.serial_le x hx
  · exact fun _ _ _ => list_compute_isSome parent

theorem resolveChain (h : d.Dated) (hpos : 0 < d.serial) (chain : List NodeId) :
    (d.resolveChain chain).2.Dated ∧ (d.resolveChain chain).2.serial = d.serial := by
  induction chain with
  | nil => exact ⟨h, rfl⟩
  | cons n ancestors ih =>
    obtain ⟨hdated, hserial⟩ := ih
    unfold Document.resolveChain
    split
    · exact ⟨h, rfl⟩
    · exact ⟨hdated.compute (hserial ▸ hpos) n none _, (serial_compute _ n none _).trans hserial⟩

/-- No style is kept before the document has a serial. -/
theorem started (h : d.Dated) : d.started.Dated ∧ 0 < d.started.serial := by
  refine ⟨?_, Nat.pos_of_ne_zero (StyleCache.serial_started_ne_zero d.cache)⟩
  rcases started_cases d with heq | hloud
  · rw [heq]
    exact h
  · exact h.loud hloud

theorem readStyle (h : d.Dated) (n : NodeId) (q : Option PseudoElement) :
    (d.readStyle n q).2.Dated := by
  obtain ⟨hdated, hpos⟩ := h.started
  unfold Document.readStyle
  split
  · cases q with
    | none => exact (hdated.resolveChain hpos _).1
    | some q =>
      dsimp only
      split
      · exact hdated
      · obtain ⟨hchain, hserial⟩ := hdated.resolveChain hpos (n :: d.page.ancestorElements n)
        exact hchain.compute (hserial ▸ hpos) n (some q) _
  · exact h

/-- What reading a style of an element leaves does not depend on which styles were kept. -/
theorem withoutStyles_readStyle (h : d.Dated) (hn : d.page.isElement n = true) :
    (d.readStyle n q).2.withoutStyles = d.started.readSheets.2.withoutStyles := by
  cases hfound : d.started.cache.lookup? n q with
  | none => exact Document.withoutStyles_readStyle hn hfound
  | some object =>
    -- The style is one of the serial, so the list is there.
    obtain ⟨hmem, hserial⟩ := mem_of_lookup? hfound
    have hlist := h.started.1.list _ hmem hserial
    rw [readStyle_of_lookup? hn hfound, readSheets_of_isSome hlist]

end Dated

theorem create_dated (doctype : Option String) (o : Options) : (create doctype o).Dated where
  serial_pos _ hx := nomatch hx
  serial_le _ hx := nomatch hx
  list _ hx := nomatch hx

theorem step_dated {allowed : Cascade → Prop} (hvalid : d.page.tree.Valid) (h : d.Dated)
    (s : Step allowed d d') : d'.Dated := by
  rcases step_cases hvalid s with (hquiet | hloud) | rfl | ⟨n, q, rfl⟩
  · exact h.quiet hquiet
  · exact h.loud hloud
  · exact h.readSheets
  · exact h.readStyle n q

theorem run_dated (doctype : Option String) (o : Options) (os : List Operation) :
    ((create doctype o).run os).Dated :=
  (run_valid_induction (fun _ => True) (fun _ _ => step_dated) os (fun _ _ => trivial)
    (create_valid doctype o) (create_dated doctype o)).2

end Document

end StyleTree
