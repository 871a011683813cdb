import StyleTree.Proofs.Document.Course
import StyleTree.Proofs.Sheets.Current
import StyleTree.Proofs.Style.Current

/-!
# The selected set

A set that was selected stays selected, whatever becomes of the document, until another one is. The
list shows it as the selected set whenever it has a sheet of that title; at other times the list
falls back to another set. What is enabled follows from the selected set, from the sets that were
enabled besides since then, and from the elements that define the sheets.
-/

namespace StyleTree

open SheetStore

/-! ## Lists and their selection -/

/-- A sheet of the list has that title. -/
def SheetList.HasSet (l : SheetList) (name : String) : Prop :=
  ∃ sheet ∈ l.sheets, sheet.title = some name

/-- The sets of the list, the selected one and the sheets that are enabled follow from what is
remembered of the selection and from the page. -/
structure SheetList.Follows (l : SheetList) (s : SheetStore) (p : Page) : Prop where
  sets : ∀ name, name ∈ l.sets ↔ l.HasSet name
  untitled : ∀ sheet ∈ l.sheets, sheet.title ≠ some ""
  selected : l.selected = s.choose? p l.sheets l.sets
  enabled : ∀ sheet ∈ l.sheets, sheet.disabled = false ↔
    ¬(p.kind sheet.owner = .link ∧ p.hasAttr sheet.owner "disabled" = true) ∧
      ∀ title, sheet.title = some title → l.selected = some title ∨ title ∈ s.additional

namespace SheetStore

variable {s : SheetStore} {p : Page} {loader : Loader} {selected : Option String}
  {sheet : ListedSheet}

theorem mem_distinct {x : String} {xs : List String} : x ∈ distinct xs ↔ x ∈ xs := by
  have hfold : ∀ seen : List String,
      x ∈ xs.foldl (fun seen x => if seen.contains x then seen else seen ++ [x]) seen ↔
        x ∈ seen ∨ x ∈ xs := by
    induction xs with
    | nil => simp
    | cons y ys ih =>
      intro seen
      rw [List.foldl_cons, ih]
      split
      next hy =>
        have hy : y ∈ seen := by simpa using hy
        constructor
        · rintro (h | h)
          · exact .inl h
          · exact .inr (List.mem_cons_of_mem y h)
        · rintro (h | h)
          · exact .inl h
          · rcases List.mem_cons.mp h with rfl | h
            · exact .inl hy
            · exact .inr h
      · simp [or_assoc]
  simpa [distinct] using hfold []

/-- A sheet is enabled if it was and its set is, if it belongs to one. -/
theorem disabled_settle : (s.settle selected sheet).disabled = false ↔
    sheet.disabled = false ∧
      ∀ title, sheet.title = some title → selected = some title ∨ title ∈ s.additional := by
  unfold settle
  cases htitle : sheet.title with
  | none => simp
  | some title =>
    by_cases hset : (selected == some title || s.additional.contains title) = true
    · have : selected = some title ∨ title ∈ s.additional := by simpa using hset
      simp [this]
    · have : ¬(selected = some title ∨ title ∈ s.additional) := by simpa using hset
      simp [this]

/-- The choice does not depend on what is enabled so far. -/
theorem choose?_settle (sheets : List ListedSheet) (sets : List String) :
    s.choose? p (sheets.map (s.settle selected)) sets = s.choose? p sheets sets := by
  have hfind : ((sheets.map (s.settle selected)).find?
      fun sheet => !sheet.alternate && sheet.title.isSome).bind (·.title) =
      (sheets.find? fun sheet => !sheet.alternate && sheet.title.isSome).bind (·.title) := by
    have htest : (fun sheet : ListedSheet => !sheet.alternate && sheet.title.isSome) ∘
        s.settle selected = fun sheet => !sheet.alternate && sheet.title.isSome :=
      funext fun sheet => by simp
    have htitle : (fun sheet : ListedSheet => sheet.title) ∘ s.settle selected = (·.title) :=
      funext fun sheet => by simp
    rw [List.find?_map, Option.bind_map, htest, htitle]
  simp only [choose?, hfind]

/-- What an entry says about the element. -/
theorem entry_of_mem_ownEntries (h : sheet ∈ ownEntries p loader) :
    sheet.title = titleOf p sheet.owner ∧
      (sheet.disabled = true ↔
        p.kind sheet.owner = .link ∧ p.hasAttr sheet.owner "disabled" = true) := by
  obtain ⟨o, n, loaded, ho, -, rfl⟩ := exists_listing_of_mem_ownEntries h
  have hkind := Page.kind_of_sheetOrigin? ho
  cases o with
  | linked =>
    have hkind : p.kind n = .link := hkind
    simp [listing, hkind]
  | embedded =>
    have hkind : p.kind n = .style := hkind
    simp [listing, hkind]

theorem follows_assemble : (s.assemble p (ownEntries p loader)).Follows s p := by
  have htitles : (s.assemble p (ownEntries p loader)).sheets.filterMap (·.title) =
      (ownEntries p loader).filterMap (·.title) := by
    simp [assemble, List.filterMap_map]
  constructor
  case sets =>
    intro name
    have hsets : name ∈ (s.assemble p (ownEntries p loader)).sets ↔
        name ∈ (ownEntries p loader).filterMap (·.title) := mem_distinct
    rw [hsets, ← htitles, List.mem_filterMap]
    rfl
  case untitled =>
    intro sheet hsheet
    obtain ⟨own, hown, rfl⟩ := List.mem_map.mp hsheet
    rw [title_settle, (entry_of_mem_ownEntries hown).1]
    simp [titleOf]
  case selected => exact (choose?_settle _ _).symm
  case enabled =>
    intro sheet hsheet
    obtain ⟨own, hown, rfl⟩ := List.mem_map.mp hsheet
    rw [disabled_settle, owner_settle, title_settle, ← (entry_of_mem_ownEntries hown).2,
      Bool.not_eq_true]
    rfl

end SheetStore

/-- What embedded sheets record plays no part in the selection. -/
theorem SheetList.Follows.of_shown {l : SheetList} {s : SheetStore} {p : Page}
    (h : l.shown.Follows s p) : l.Follows s p := by
  have hmem : ∀ sheet ∈ l.sheets, sheet.shown ∈ l.shown.sheets :=
    fun sheet hsheet => List.mem_map_of_mem hsheet
  constructor
  case sets =>
    intro name
    rw [show l.sets = l.shown.sets from rfl, h.sets]
    simp [SheetList.HasSet, SheetList.shown]
  case untitled =>
    intro sheet hsheet
    simpa using h.untitled _ (hmem sheet hsheet)
  case selected => exact h.selected.trans (choose?_shown _ _)
  case enabled =>
    intro sheet hsheet
    have := h.enabled _ (hmem sheet hsheet)
    rwa [ListedSheet.disabled_shown, ListedSheet.owner_shown, ListedSheet.title_shown] at this

namespace Document

variable {d d' : Document} {op : Operation} {name : String}

theorem follows_readSheets (hvalid : d.page.tree.Valid) (henlisted : d.Enlisted)
    (h : d.Coherent) : d.readSheets.1.Follows d.sheets d.page := by
  refine .of_shown ?_
  rw [shown_readSheets hvalid henlisted h, shown_rebuiltList]
  exact follows_assemble

/-! ## What is remembered of the selection -/

/-- The name can be selected: it is empty, or the title of a set. -/
def Offers (d : Document) (name : String) : Prop :=
  name = "" ∨ name ∈ d.readSheets.1.sets

/-- The operation selects a set, or none. -/
inductive Selects (d : Document) : Operation → Prop where
  | intro {name : String} (h : d.Offers name) : Selects d (.selectSet name)

/-- The set `name` was selected last, and those of `besides` were enabled since then. -/
structure Recalls (d : Document) (name : String) (besides : String → Prop) : Prop where
  last : d.sheets.lastSelected = some name
  additional : ∀ t, t ∈ d.sheets.additional ↔ t ≠ "" ∧ besides t

theorem sameSelection_readSheets : SameSelection d.sheets d.readSheets.2.sheets := by
  cases hlist : d.sheets.list with
  | some list =>
    rw [readSheets_of_list hlist]
    exact ⟨rfl, rfl, rfl⟩
  | none =>
    have hbuild : SameSelection d.sheets (d.sheets.build d.page d.loader).2 := sameSelection_build
    simpa [SameSelection, readSheets, hlist] using hbuild

theorem Reads.sameSelection (h : Reads d d') : SameSelection d.sheets d'.sheets := by
  cases h with
  | styles cache => exact ⟨rfl, rfl, rfl⟩
  | list cache => exact sameSelection_readSheets

theorem sameSelection_attach (p n : NodeId) (before : Option NodeId) :
    SameSelection d.sheets (d.attach p n before).sheets := by
  let put : Document := d.withTree (d.page.tree.link p n before)
  have hmoved : SameSelection put.sheets
      (put.notifyAll .inserted (put.page.tree.preorder n)).sheets := sameSelection_notifyAll _
  exact hmoved.trans (sameSelection_notifyAll _)

theorem sameSelection_detach (p n : NodeId) : SameSelection d.sheets (d.detach p n).sheets := by
  let cut : Document := { d.withTree (d.page.tree.unlink n) with
    cache := ((d.page.tree.unlink n).preorder n).foldl StyleCache.forget d.cache }
  have hmoved : SameSelection cut.sheets
      (cut.notifyAll .removed (cut.page.tree.preorder n)).sheets := sameSelection_notifyAll _
  exact hmoved.trans (sameSelection_notifyAll _)

/-- Operations that select and enable no set leave what is remembered as it is. -/
theorem Course.sameRecall (h : d.Course op d') (hselect : ¬ d.Selects op)
    (henable : ∀ t, op ≠ .enableSet t) : d'.sheets.lastSelected = d.sheets.lastSelected ∧
      d'.sheets.additional = d.sheets.additional := by
  have hsame : ∀ {d' : Document}, SameSelection d.sheets d'.sheets →
      d'.sheets.lastSelected = d.sheets.lastSelected ∧
        d'.sheets.additional = d.sheets.additional :=
    fun h => ⟨h.1, h.2.1⟩
  cases h with
  | nothing | push | states => exact ⟨rfl, rfl⟩
  | putIn => exact hsame (sameSelection_attach _ _ _)
  | move => exact hsame ((sameSelection_detach _ _).trans (sameSelection_attach _ _ _))
  | takeOut => exact hsame (sameSelection_detach _ _)
  | @attributes _ n e as _ _ _ _ =>
    exact hsame (sameSelection_notify (d := d.withElement n { e with attributes := as }))
  | @text n _ new _ _ _ =>
    exact hsame (sameSelection_notifyAll (d := d.withTree (d.page.tree.setData n new)) _)
  | url =>
    unfold withUrl
    dsimp only
    split <;> exact ⟨rfl, rfl⟩
  | header | medium | register | rebuild | cascade | loader => exact ⟨rfl, rfl⟩
  | selectNone => exact absurd (.intro (.inl rfl)) hselect
  | selectUnknown | readSheets => exact hsame sameSelection_readSheets
  | selectKnown _ hname => exact absurd (.intro (.inr (by simpa using hname))) hselect
  | enableSet => exact absurd rfl (henable _)
  | readStyle n q => exact hsame (Reads.readStyle n q).sameSelection

theorem perform_enableSet (name : String) :
    d.perform (.enableSet name) = if name = "" then d else d.enableSet name := by
  simp only [perform, Operation.edit, Edit.enableSet]
  by_cases hname : name = ""
  · rw [if_neg (not_not.mpr hname), if_pos hname]
    rfl
  · rw [if_pos hname, if_neg hname]
    rfl

/-- The list is read unless nothing is selected. -/
theorem perform_selectSet (name : String) :
    d.perform (.selectSet name) =
      if name = "" then d.selectSet name
      else if d.readSheets.1.sets.contains name then d.readSheets.2.selectSet name
      else d.readSheets.2 := by
  simp only [perform, Operation.edit, Edit.selectSet]
  by_cases hname : name = ""
  · rw [if_pos hname, if_pos hname]
    rfl
  · rw [if_neg hname, if_neg hname]
    show ((if d.readSheets.1.sets.contains name then modify (·.selectSet name) else pure () :
      Edit Unit).silent).after d.readSheets.2 = _
    split <;> rfl

theorem recalls_selectSet (h : d.Offers name) :
    (d.perform (.selectSet name)).Recalls name fun _ => False := by
  have hselect : ∀ d : Document, (d.selectSet name).Recalls name fun _ => False :=
    fun d => ⟨rfl, by simp [selectSet, stale, select, dropList]⟩
  rw [perform_selectSet]
  split
  · exact hselect d
  next hname =>
    have hset : name ∈ d.readSheets.1.sets := h.resolve_left hname
    rw [if_pos (by simpa using hset)]
    exact hselect _

/-- An operation that selects no set leaves the selected one, and may enable another besides. -/
theorem Recalls.perform {besides : String → Prop} (h : d.Recalls name besides)
    (hsound : d.page.tree.Sound) (hnot : ¬ d.Selects op) :
    (d.perform op).Recalls name fun t => besides t ∨ op = .enableSet t := by
  by_cases henable : ∃ t, op = .enableSet t
  · obtain ⟨t, rfl⟩ := henable
    rw [perform_enableSet]
    split
    next ht =>
      refine ⟨h.last, fun u => ?_⟩
      rw [h.additional]
      grind
    next ht =>
      have hlast : (d.enableSet t).sheets.lastSelected = d.sheets.lastSelected := by
        show (d.sheets.enable t).lastSelected = _
        unfold SheetStore.enable
        split <;> rfl
      refine ⟨hlast.trans h.last, fun u => ?_⟩
      have hmem : u ∈ (d.sheets.enable t).additional ↔ u ∈ d.sheets.additional ∨ u = t := by
        unfold SheetStore.enable
        split
        next hold =>
          have hold : t ∈ d.sheets.additional := by simpa using hold
          grind
        · simp
      show u ∈ (d.sheets.enable t).additional ↔ _
      rw [hmem, h.additional]
      grind
  · have henable := not_exists.mp henable
    obtain ⟨hlast, hadditional⟩ := (perform_course hsound op).sameRecall hnot henable
    refine ⟨hlast.trans h.last, fun t => ?_⟩
    rw [hadditional, h.additional]
    simp [henable t]

theorem Recalls.run {besides : String → Prop} {since : List Operation} (h : d.Recalls name besides)
    (hvalid : d.page.tree.Valid)
    (hnot : ∀ xs op ys, since = xs ++ op :: ys → ¬ (d.run xs).Selects op) :
    (d.run since).Recalls name fun t => besides t ∨ .enableSet t ∈ since := by
  induction since generalizing d besides with
  | nil =>
    refine ⟨h.last, fun t => ?_⟩
    rw [show d.run [] = d from rfl, h.additional]
    simp
  | cons op since ih =>
    have hfirst := h.perform hvalid.toSound (hnot [] op since rfl)
    have hrest := ih hfirst (perform_valid hvalid op) fun xs o ys hsince =>
      hnot (op :: xs) o ys (by rw [hsince, List.cons_append])
    refine ⟨hrest.last, fun t => ?_⟩
    rw [show d.run (op :: since) = (d.perform op).run since from rfl, hrest.additional]
    simp only [List.mem_cons, or_assoc, eq_comm]

/-! ## What the list shows -/

/-- What the list of style sheets says when `name` was selected last and the sets of `besides` were
enabled since then. -/
structure ShowsSelection (d : Document) (name : String) (besides : String → Prop) : Prop where
  last : d.sheets.lastSelected = some name
  /-- The selected set is shown as long as it has a sheet. -/
  held : name = "" ∨ d.readSheets.1.HasSet name → d.readSheets.1.selected = some name
  /-- Otherwise the preferred set is, if it has one. -/
  preferred : name ≠ "" → ¬ d.readSheets.1.HasSet name →
    ∀ other, d.preferredSet? = some other → d.readSheets.1.HasSet other →
      d.readSheets.1.selected = some other
  /-- Without either it is the set of the first sheet with a title that is no alternate. -/
  first : name ≠ "" → ¬ d.readSheets.1.HasSet name →
    (∀ other, d.preferredSet? = some other → ¬ d.readSheets.1.HasSet other) →
      d.readSheets.1.selected =
        (d.readSheets.1.sheets.find? fun s => !s.alternate && s.title.isSome).bind (·.title)
  enabled : ∀ sheet ∈ d.readSheets.1.sheets, sheet.disabled = false ↔
    ¬(d.page.kind sheet.owner = .link ∧ d.page.hasAttr sheet.owner "disabled" = true) ∧
      ∀ title, sheet.title = some title → d.readSheets.1.selected = some title ∨ besides title

theorem Recalls.shows {besides : String → Prop} (h : d.Recalls name besides)
    (hvalid : d.page.tree.Valid) (henlisted : d.Enlisted) (hcoherent : d.Coherent) :
    d.ShowsSelection name besides := by
  have hlist := follows_readSheets hvalid henlisted hcoherent
  have hselected := hlist.selected
  simp only [choose?, h.last] at hselected
  -- A name without a sheet counts for nothing.
  have hlost : name ≠ "" → ¬ d.readSheets.1.HasSet name →
      (some name).filter (fun name => name == "" || d.readSheets.1.sets.contains name) = none := by
    intro hne hnone
    rw [← hlist.sets] at hnone
    simp [Option.filter, hne, hnone]
  constructor
  case last => exact h.last
  case held =>
    intro hname
    rw [← hlist.sets] at hname
    simp [hselected, hname]
  case preferred =>
    intro hne hnone other hother hset
    rw [← hlist.sets] at hset
    rw [preferredSet?] at hother
    rw [hselected, hlost hne hnone, hother]
    simp [hset]
  case first =>
    intro hne hnone hpreferred
    have hnot : (d.sheets.preferred? d.page).filter d.readSheets.1.sets.contains = none := by
      rw [Option.filter_eq_none_iff]
      intro other hother
      rw [List.contains_iff_mem, hlist.sets]
      exact hpreferred other hother
    rw [hselected, hlost hne hnone, hnot]
    rfl
  case enabled =>
    intro sheet hsheet
    rw [hlist.enabled sheet hsheet]
    refine and_congr_right fun _ => forall_congr' fun title => forall_congr' fun htitle => ?_
    have hne : title ≠ "" := by
      rintro rfl
      exact hlist.untitled sheet hsheet htitle
    simp [h.additional, hne]

/-- After any operations, a name that no set has cannot be selected: that changes neither the serial
nor what was selected last nor the list. A set that is selected is remembered, and the list shows
it, until the next selection. -/
theorem selection_run (doctype : Option String) (o : Options) (os : List Operation) :
    let d := (create doctype o).run os
    (∀ name, ¬ d.Offers name → (d.perform (.selectSet name)).serial = d.serial ∧
      (d.perform (.selectSet name)).sheets.lastSelected = d.sheets.lastSelected ∧
      (d.perform (.selectSet name)).readSheets.1 = d.readSheets.1) ∧
    ∀ name since, d.Offers name →
      (∀ xs op ys, since = xs ++ op :: ys →
        ¬ ((d.perform (.selectSet name)).run xs).Selects op) →
      ((d.perform (.selectSet name)).run since).ShowsSelection name (.enableSet · ∈ since) := by
  intro d
  refine ⟨fun name hnot => ?_, fun name since hname hsince => ?_⟩
  · obtain ⟨hne, hset⟩ := not_or.mp hnot
    have hread : d.perform (.selectSet name) = d.readSheets.2 := by
      rw [perform_selectSet, if_neg hne, if_neg (by simpa using hset)]
    rw [hread]
    refine ⟨?_, sameSelection_readSheets.1, readSheets_again⟩
    obtain ⟨_, _, hframe⟩ := readSheets_frame d
    rw [hframe]
    rfl
  · have hrun : ((create doctype o).run (os ++ .selectSet name :: since)) =
        (d.perform (.selectSet name)).run since := by
      simp [d, run]
    obtain ⟨hvalid, henlisted, hcoherent⟩ := run_coherent doctype o (os ++ .selectSet name :: since)
    rw [hrun] at hvalid henlisted hcoherent
    have hselected : (d.perform (.selectSet name)).page.tree.Valid :=
      perform_valid (run_valid doctype o os) _
    have hrecalls := (recalls_selectSet hname).run hselected hsince
    refine Recalls.shows ⟨hrecalls.last, fun t => ?_⟩ hvalid henlisted hcoherent
    rw [hrecalls.additional]
    simp

/-- A set stays selected while its only sheet is taken out and put in again. -/
theorem selection_run_returning :
    let d := (create none .default).run [.createElement "div", .createElement "style",
      .createElement "style", .setAttribute 2 "title" "a", .setAttribute 3 "title" "b",
      .insertBefore 1 2 none, .insertBefore 1 3 none, .insertBefore Tree.root 1 none]
    let since := [.removeChild 1 3, .readSheets, .enableSet "a", .insertBefore 1 3 none]
    d.Offers "b" ∧ ((d.perform (.selectSet "b")).run since).ShowsSelection "b"
      (.enableSet · ∈ since) := by
  intro d since
  have hname : d.Offers "b" := .inr (by decide +kernel)
  refine ⟨hname, (selection_run none .default _).2 "b" since hname fun xs op ys hsince => ?_⟩
  rintro ⟨-⟩
  have hmem : Operation.selectSet _ ∈ since := hsince ▸ List.mem_append_right xs List.mem_cons_self
  simp [since] at hmem

end Document

end StyleTree
