import StyleTree.Proofs.Document.Step

/-!
# What reading a style leaves

A style that is kept is read without any effect. One that has to be computed needs the list of
style sheets, which is built if it is stale; everything else that changes is about the styles that
the document keeps. `withoutStyles` is the document without that.
-/

namespace StyleTree

namespace StyleCache

/-- The cache as if it were switched off and no style had been computed. -/
def bare (c : StyleCache) : StyleCache :=
  { c with enabled := false, computed := 0, styles := [] }

@[simp] theorem serial_bare (c : StyleCache) : c.bare.serial = c.serial := rfl

theorem started_bare (c : StyleCache) : c.bare.started = c.started.bare := by
  unfold started
  rw [serial_bare, apply_ite bare]
  rfl

theorem started_eq_self {c : StyleCache} (h : c.serial ≠ 0) : c.started = c :=
  if_neg h

theorem serial_started_ne_zero (c : StyleCache) : c.started.serial ≠ 0 := by
  unfold started
  split
  · exact Nat.one_ne_zero
  · assumption

/-! ### Styles that are forgotten -/

/-- Forgetting nodes changes nothing but which styles are kept. -/
theorem forget_all (nodes : List NodeId) (c : StyleCache) :
    ∃ styles, styles ⊆ c.styles ∧ nodes.foldl forget c = { c with styles } := by
  induction nodes generalizing c with
  | nil => exact ⟨c.styles, List.Subset.refl _, rfl⟩
  | cons n nodes ih =>
    obtain ⟨styles, hsubset, he⟩ := ih (c.forget n)
    exact ⟨styles, fun _ hx => List.mem_of_mem_filter (hsubset hx), he⟩

variable {n m : NodeId}

/-- A style is found as before if styles of its key are not among those that are dropped. -/
theorem lookup?_filter (c : StyleCache) {q : Option PseudoElement}
    {keep : (NodeId × Option PseudoElement) × StyleObject → Bool}
    (h : ∀ x, x.1 = (n, q) → keep x = true) :
    StyleCache.lookup? { c with styles := c.styles.filter keep } n q = c.lookup? n q := by
  have hfind : (c.styles.filter keep).find? (·.1 == (n, q)) =
      c.styles.find? (·.1 == (n, q)) := by
    rw [List.find?_filter]
    congr 1
    funext x
    by_cases hx : x.1 = (n, q)
    · simp [hx, h x hx]
    · simp [hx]
  simp only [lookup?, hfind]

theorem lookup?_forget (h : n ≠ m) (c : StyleCache) (q : Option PseudoElement) :
    (c.forget m).lookup? n q = c.lookup? n q :=
  c.lookup?_filter fun x hx => by simp [hx, h]

theorem lookup?_forget_all {nodes : List NodeId} (h : n ∉ nodes) (c : StyleCache)
    (q : Option PseudoElement) : (nodes.foldl forget c).lookup? n q = c.lookup? n q := by
  induction nodes generalizing c with
  | nil => rfl
  | cons m nodes ih =>
    rw [List.mem_cons, not_or] at h
    rw [List.foldl_cons, ih h.2, lookup?_forget h.1]

end StyleCache

namespace Document

/-- The document as if it kept no styles and had not computed any. -/
def withoutStyles (d : Document) : Document :=
  { d with cache := d.cache.bare }

/-- The document with a serial other than zero, as the first read of a style makes it. -/
def started (d : Document) : Document :=
  { d with cache := d.cache.started }

variable {d : Document} {n : NodeId} {q : Option PseudoElement}

@[simp] theorem page_withoutStyles (d : Document) : d.withoutStyles.page = d.page := rfl

@[simp] theorem sheets_withoutStyles (d : Document) : d.withoutStyles.sheets = d.sheets := rfl

@[simp] theorem page_started (d : Document) : d.started.page = d.page := rfl

theorem started_eq_self (h : d.serial ≠ 0) : d.started = d := by
  unfold started
  rw [StyleCache.started_eq_self h]

theorem started_withoutStyles (d : Document) : d.withoutStyles.started = d.started.withoutStyles := by
  simp only [started, withoutStyles, StyleCache.started_bare]

@[simp] theorem state_started (d : Document) : d.started.cache.state = d.cache.state := by
  unfold started StyleCache.started
  split <;> rfl

/-! ## The list of style sheets -/

theorem readSheets_of_list {list : SheetList} (h : d.sheets.list = some list) :
    d.readSheets = (list, d) := by
  unfold readSheets
  rw [h]

theorem list_readSheets_isSome (d : Document) : d.readSheets.2.sheets.list.isSome = true := by
  unfold readSheets
  cases h : d.sheets.list with
  | some list => rw [h]; rfl
  | none => rfl

theorem readSheets_of_isSome (h : d.sheets.list.isSome = true) : d.readSheets.2 = d := by
  obtain ⟨list, hlist⟩ := Option.isSome_iff_exists.mp h
  rw [readSheets_of_list hlist]

/-- The list is built from the same, whatever styles are kept. -/
theorem readSheets_withoutStyles (d : Document) :
    d.withoutStyles.readSheets = (d.readSheets.1, d.readSheets.2.withoutStyles) := by
  unfold readSheets
  cases h : d.sheets.list with
  | some list => rw [sheets_withoutStyles, h]
  | none => rw [sheets_withoutStyles, h]; rfl

theorem cache_readSheets (d : Document) :
    ∃ state, d.readSheets.2.cache = { d.cache with state } := by
  obtain ⟨_, state, h⟩ := readSheets_frame d
  exact ⟨state, by rw [h]⟩

/-! ## Styles -/

/-- Nothing but the list is needed to compute a style. -/
theorem withoutStyles_compute (parent : Option StyleObject) :
    (d.compute n q parent).2.withoutStyles = d.readSheets.2.withoutStyles := rfl

theorem list_compute_isSome (parent : Option StyleObject) :
    (d.compute n q parent).2.sheets.list.isSome = true :=
  d.list_readSheets_isSome

/-- The list is the same whether it is read before the styles along a chain or after them. -/
theorem readSheets_resolveChain (chain : List NodeId) :
    (d.resolveChain chain).2.readSheets.2.withoutStyles = d.readSheets.2.withoutStyles := by
  induction chain with
  | nil => rfl
  | cons n ancestors ih =>
    unfold resolveChain
    split
    · rfl
    · show ((d.resolveChain ancestors).2.compute n none _).2.readSheets.2.withoutStyles = _
      rw [readSheets_of_isSome (list_compute_isSome _), withoutStyles_compute, ih]

theorem withoutStyles_resolveChain {ancestors : List NodeId} (h : d.cache.lookup? n none = none) :
    (d.resolveChain (n :: ancestors)).2.withoutStyles = d.readSheets.2.withoutStyles := by
  rw [resolveChain, h]
  show ((d.resolveChain ancestors).2.compute n none _).2.withoutStyles = _
  rw [withoutStyles_compute, readSheets_resolveChain]

/-- Nothing is read of a node that is no element. -/
theorem readStyle_of_not_element (h : d.page.isElement n = false) : d.readStyle n q = (none, d) := by
  unfold readStyle
  rw [h]
  rfl

/-- A style that is kept is what is read. -/
theorem readStyle_of_lookup? (h : d.page.isElement n = true) {object : StyleObject}
    (hfound : d.started.cache.lookup? n q = some object) :
    d.readStyle n q = (some object, d.started) := by
  change d.cache.started.lookup? n q = some object at hfound
  unfold readStyle
  rw [if_pos h]
  cases q with
  | none => simp only [resolveChain, hfound, started]
  | some q => simp only [hfound, started]

/-- A style that is not kept is computed, which needs the list of style sheets. -/
theorem withoutStyles_readStyle (h : d.page.isElement n = true)
    (hmissing : d.started.cache.lookup? n q = none) :
    (d.readStyle n q).2.withoutStyles = d.started.readSheets.2.withoutStyles := by
  unfold readStyle
  rw [if_pos h]
  cases q with
  | none => exact withoutStyles_resolveChain hmissing
  | some q =>
    change d.cache.started.lookup? n (some q) = none at hmissing
    simp only [hmissing]
    exact readSheets_resolveChain (n :: d.page.ancestorElements n)

end Document

end StyleTree
