import StyleTree.Proofs.Sheets.Definers
import StyleTree.Proofs.Sheets.Reference

/-!
# Building the list

What is kept of an element is what loading it again would give, but for the base URL that an
embedded sheet records. So the list that is built with what is kept is the list that is built with
nothing kept.
-/

namespace StyleTree

/-! ## Sheets without what embedded ones record -/

/-- The sheet without its base URL if it is embedded. -/
def LoadedSheet.shown (o : SheetOrigin) (sheet : LoadedSheet) : LoadedSheet :=
  match o with
  | .linked => sheet
  | .embedded => { sheet with contents := { sheet.contents with base := none } }

/-- The entry without the base URL of its sheet if it is embedded. -/
def ListedSheet.shown (s : ListedSheet) : ListedSheet :=
  match s.origin with
  | .linked => s
  | .embedded => { s with contents := { s.contents with base := none } }

/-- The list without the base URLs of embedded sheets. -/
def SheetList.shown (l : SheetList) : SheetList :=
  { l with sheets := l.sheets.map ListedSheet.shown }

namespace ListedSheet

variable (s : ListedSheet)

theorem exists_shown_eq : ∃ base, s.shown = { s with contents := { s.contents with base } } := by
  unfold shown
  split
  · exact ⟨s.contents.base, rfl⟩
  · exact ⟨none, rfl⟩

@[simp] theorem owner_shown : s.shown.owner = s.owner := by
  obtain ⟨base, h⟩ := s.exists_shown_eq
  rw [h]

@[simp] theorem title_shown : s.shown.title = s.title := by
  obtain ⟨base, h⟩ := s.exists_shown_eq
  rw [h]

@[simp] theorem alternate_shown : s.shown.alternate = s.alternate := by
  obtain ⟨base, h⟩ := s.exists_shown_eq
  rw [h]

@[simp] theorem disabled_shown : s.shown.disabled = s.disabled := by
  obtain ⟨base, h⟩ := s.exists_shown_eq
  rw [h]

@[simp] theorem rules_shown : s.shown.contents.rules = s.contents.rules := by
  obtain ⟨base, h⟩ := s.exists_shown_eq
  rw [h]

end ListedSheet

namespace SheetStore

/-! ## Entries -/

variable {s s' : SheetStore} {p q : Page} {loader : Loader} {o : SheetOrigin} {n : NodeId}

theorem shown_listing (sheet : LoadedSheet) :
    (listing p o n sheet).shown = listing p o n (sheet.shown o) := by
  cases o <;> rfl

/-- The entry for the element, if it can have one, with the sheet loaded anew. -/
def ownEntry (p : Page) (loader : Loader) (o : SheetOrigin) (n : NodeId) : Option ListedSheet :=
  if isListed p o n then
    ((load p loader n o).1.map (LoadedSheet.shown o)).map (listing p o n)
  else none

/-- What is kept would be loaded again; of `pending` elements, and if they decide the base URL of
all elements, it need not. -/
structure Kept (s : SheetStore) (p : Page) (loader : Loader) (pending : List NodeId) : Prop where
  kind : ∀ n x, (n, x) ∈ s.contents → ∃ o : SheetOrigin, p.kind n = o.kind
  right : (∀ b ∈ pending, p.kind b ≠ .base) → ∀ n x, (n, x) ∈ s.contents → n ∉ pending →
    ∃ o, p.sheetOrigin? n = some o ∧
      x.map (LoadedSheet.shown o) = (load p loader n o).1.map (LoadedSheet.shown o)

theorem kept_of_contents_nil (h : s.contents = []) (pending : List NodeId) :
    Kept s p loader pending := by
  constructor <;> simp [h]

theorem Kept.right_nil (h : Kept s p loader []) {x : Option LoadedSheet}
    (hx : (n, x) ∈ s.contents) (ho : p.sheetOrigin? n = some o) :
    x.map (LoadedSheet.shown o) = (load p loader n o).1.map (LoadedSheet.shown o) := by
  obtain ⟨o', ho', hload⟩ := h.right (fun _ hb => absurd hb List.not_mem_nil) n x hx
    List.not_mem_nil
  obtain rfl : o = o' := Option.some.inj (ho.symm.trans ho')
  exact hload

theorem Kept.obtain? (h : Kept s p loader []) (ho : p.sheetOrigin? n = some o) :
    (s.obtain? p loader n o).1.map (LoadedSheet.shown o) =
        (load p loader n o).1.map (LoadedSheet.shown o) ∧
      Kept (s.obtain? p loader n o).2 p loader [] := by
  unfold SheetStore.obtain?
  split
  next m x hfind =>
    have hmem := List.mem_of_find?_eq_some hfind
    obtain rfl : m = n := by simpa using List.find?_some hfind
    exact ⟨h.right_nil hmem ho, h⟩
  · -- The sheet is loaded now, and what is kept for it is what was loaded.
    refine ⟨rfl, ⟨?_, ?_⟩⟩
    · intro m x hmem
      rcases List.mem_cons.mp hmem with he | hmem
      · cases he
        exact ⟨o, Page.kind_of_sheetOrigin? ho⟩
      · exact h.kind m x hmem
    · intro hbase m x hmem hpending
      rcases List.mem_cons.mp hmem with he | hmem
      · cases he
        exact ⟨o, ho, rfl⟩
      · exact h.right hbase m x hmem hpending

theorem Kept.entry? (h : Kept s p loader []) (ho : p.sheetOrigin? n = some o) :
    (s.entry? p loader o n).1.map ListedSheet.shown = ownEntry p loader o n ∧
      Kept (s.entry? p loader o n).2 p loader [] := by
  obtain ⟨hload, hkept⟩ := h.obtain? ho
  unfold SheetStore.entry? ownEntry
  split
  · refine ⟨?_, hkept⟩
    rw [← hload, Option.map_map, Option.map_map]
    congr 1
    funext sheet
    exact shown_listing sheet
  · exact ⟨rfl, h⟩

theorem Kept.entries {list : List NodeId} (h : Kept s p loader [])
    (ho : ∀ n ∈ list, p.sheetOrigin? n = some o) :
    (entries p loader o s list).1.map ListedSheet.shown = list.filterMap (ownEntry p loader o) ∧
      Kept (entries p loader o s list).2 p loader [] := by
  induction list generalizing s with
  | nil => exact ⟨rfl, h⟩
  | cons n list ih =>
    obtain ⟨hentry, hkept⟩ := h.entry? (ho n List.mem_cons_self)
    obtain ⟨hentries, hkept⟩ := ih hkept fun m hm => ho m (List.mem_cons_of_mem n hm)
    refine ⟨?_, hkept⟩
    unfold SheetStore.entries
    dsimp only
    rw [List.map_append, hentries, List.filterMap_cons, ← hentry]
    cases (s.entry? p loader o n).1 <;> rfl

/-! ## Selection -/

/-- What decides which sets are enabled, besides the page. -/
def SameSelection (s s' : SheetStore) : Prop :=
  s'.lastSelected = s.lastSelected ∧ s'.additional = s.additional ∧ s'.header = s.header

theorem SameSelection.trans {s'' : SheetStore} (h : SameSelection s s')
    (h' : SameSelection s' s'') : SameSelection s s'' :=
  ⟨h'.1.trans h.1, h'.2.1.trans h.2.1, h'.2.2.trans h.2.2⟩

theorem sameSelection_obtain? : SameSelection s (s.obtain? p loader n o).2 := by
  unfold obtain?
  split <;> exact ⟨rfl, rfl, rfl⟩

theorem sameSelection_entry? : SameSelection s (s.entry? p loader o n).2 := by
  unfold entry?
  split
  · exact sameSelection_obtain?
  · exact ⟨rfl, rfl, rfl⟩

theorem sameSelection_entries {list : List NodeId} :
    SameSelection s (entries p loader o s list).2 := by
  induction list generalizing s with
  | nil => exact ⟨rfl, rfl, rfl⟩
  | cons n list ih => exact sameSelection_entry?.trans ih

theorem sameSelection_build : SameSelection s (s.build p loader).2 :=
  sameSelection_entries.trans sameSelection_entries

theorem choose?_shown (sheets : List ListedSheet) (sets : List String) :
    s.choose? p (sheets.map ListedSheet.shown) sets = s.choose? p sheets sets := by
  unfold choose?
  congr 1
  funext _
  congr 1
  funext _
  rw [List.find?_map]
  have hsame : ((fun sheet : ListedSheet => !sheet.alternate && sheet.title.isSome) ∘
      ListedSheet.shown) = fun sheet => !sheet.alternate && sheet.title.isSome := by
    funext sheet
    simp
  rw [hsame, Option.bind_map]
  congr 1
  funext sheet
  exact ListedSheet.title_shown sheet

theorem exists_settle_eq (s : SheetStore) (selected : Option String) (sheet : ListedSheet) :
    ∃ disabled, s.settle selected sheet = { sheet with disabled } := by
  unfold settle
  split
  · split
    · exact ⟨sheet.disabled, rfl⟩
    · exact ⟨true, rfl⟩
  · exact ⟨sheet.disabled, rfl⟩

section

variable {selected : Option String} {sheet : ListedSheet}

@[simp] theorem owner_settle : (s.settle selected sheet).owner = sheet.owner := by
  obtain ⟨disabled, h⟩ := exists_settle_eq s selected sheet
  rw [h]

@[simp] theorem title_settle : (s.settle selected sheet).title = sheet.title := by
  obtain ⟨disabled, h⟩ := exists_settle_eq s selected sheet
  rw [h]

@[simp] theorem alternate_settle : (s.settle selected sheet).alternate = sheet.alternate := by
  obtain ⟨disabled, h⟩ := exists_settle_eq s selected sheet
  rw [h]

@[simp] theorem contents_settle : (s.settle selected sheet).contents = sheet.contents := by
  obtain ⟨disabled, h⟩ := exists_settle_eq s selected sheet
  rw [h]

end

theorem settle_shown (selected : Option String) (sheet : ListedSheet) :
    (s.settle selected sheet).shown = s.settle selected sheet.shown := by
  unfold settle
  rw [ListedSheet.title_shown]
  split
  · split
    · rfl
    · cases horigin : sheet.origin <;> simp [ListedSheet.shown, horigin]
  · rfl

/-- What embedded sheets record plays no part in putting the list together. -/
theorem shown_assemble (sheets : List ListedSheet) :
    (s.assemble p sheets).shown = s.assemble p (sheets.map ListedSheet.shown) := by
  have htitles : (sheets.map ListedSheet.shown).filterMap (·.title) =
      sheets.filterMap (·.title) := by
    rw [List.filterMap_map]
    congr 1
    funext sheet
    exact ListedSheet.title_shown sheet
  unfold assemble SheetList.shown
  dsimp only
  rw [htitles, choose?_shown, List.map_map, List.map_map]
  congr 2
  funext sheet
  exact settle_shown _ sheet

theorem assemble_congr (h : SameSelection s s')
    (hnamed : q.elements.filterMap q.namedSet? = p.elements.filterMap p.namedSet?)
    (sheets : List ListedSheet) : s'.assemble q sheets = s.assemble p sheets := by
  obtain ⟨hlast, hadditional, hheader⟩ := h
  have hchoose : ∀ sets, s'.choose? q sheets sets = s.choose? p sheets sets := by
    intro sets
    simp only [choose?, preferred?, hlast, hheader, hnamed]
  have hsettle : ∀ selected, s'.settle selected = s.settle selected := by
    intro selected
    funext sheet
    simp only [settle, hadditional]
  simp only [assemble, hchoose, hsettle]

/-! ## The list -/

/-- The nodes that define a sheet of the origin, in tree order. -/
def definersOf (p : Page) (o : SheetOrigin) : List NodeId :=
  (p.tree.preorder Tree.root).filter (p.sheetOrigin? · = some o)

/-- The entries for all elements that define a sheet, with the sheets loaded anew. -/
def ownEntries (p : Page) (loader : Loader) : List ListedSheet :=
  (definersOf p .linked).filterMap (ownEntry p loader .linked) ++
    (definersOf p .embedded).filterMap (ownEntry p loader .embedded)

theorem exists_listing_of_mem_ownEntries {entry : ListedSheet} (h : entry ∈ ownEntries p loader) :
    ∃ o n loaded, p.sheetOrigin? n = some o ∧ (load p loader n o).1 = some loaded ∧
      entry = listing p o n (loaded.shown o) := by
  have horigin : ∀ o, entry ∈ (definersOf p o).filterMap (ownEntry p loader o) →
      ∃ n loaded, p.sheetOrigin? n = some o ∧ (load p loader n o).1 = some loaded ∧
        entry = listing p o n (loaded.shown o) := by
    intro o hmem
    obtain ⟨n, hn, hentry⟩ := List.mem_filterMap.mp hmem
    unfold ownEntry at hentry
    split at hentry
    · rw [Option.map_map] at hentry
      obtain ⟨loaded, hload, rfl⟩ := Option.map_eq_some_iff.mp hentry
      exact ⟨n, loaded, by simpa using (List.mem_filter.mp hn).2, hload, rfl⟩
    · cases hentry
  rcases List.mem_append.mp h with h | h
  · exact ⟨.linked, horigin .linked h⟩
  · exact ⟨.embedded, horigin .embedded h⟩

/-- A list that is built with what is kept is the one that is built with nothing kept. -/
theorem Kept.build (h : Kept s p loader []) (hs : ∀ o, s.definers o = definersOf p o) :
    (s.build p loader).1.shown = s.assemble p (ownEntries p loader) ∧
      Kept (s.build p loader).2 p loader [] := by
  have hdefine : ∀ o, ∀ n ∈ definersOf p o, p.sheetOrigin? n = some o := by
    intro o n hn
    simpa using (List.mem_filter.mp hn).2
  have hlinked : s.linked = definersOf p .linked := hs .linked
  obtain ⟨hl, hkept⟩ := h.entries (hdefine .linked)
  obtain ⟨he, hkept⟩ := hkept.entries (hdefine .embedded)
  -- Loading the linked sheets leaves the list of embedded ones alone.
  have hembedded : (SheetStore.entries p loader .linked s (definersOf p .linked)).2.embedded =
      definersOf p .embedded :=
    (definers_entries s .embedded p loader .linked _).trans (hs .embedded)
  unfold SheetStore.build
  dsimp only
  rw [hlinked, hembedded]
  refine ⟨?_, hkept⟩
  rw [shown_assemble, List.map_append, hl, he]
  exact assemble_congr (sameSelection_entries.trans sameSelection_entries) rfl _

end SheetStore

end StyleTree
