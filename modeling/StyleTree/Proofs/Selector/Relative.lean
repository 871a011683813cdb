import StyleTree.Proofs.Selector.Position
import StyleTree.Proofs.Style.Matching

/-!
# Elements that `:has()` finds

`Page.hasRelated` goes from an element to those that a combinator leads to. For `:has()` a wider
range of elements is tried, and from each the combinator is followed back to the element. Both find
the same elements, whatever the tree looks like.
-/

namespace StyleTree

variable {p : Page} {n m : NodeId}

/-! ## The elements that are tried -/

namespace Combinator

/-- What is found from left to right is among what is tried. -/
theorem related_subset_reach (h : p.tree.Sound) (c : Combinator) :
    p.related n c ⊆ c.reach p n := by
  have hbeside : p.followingElements n ⊆
      (p.followingElements n).flatMap fun k => k :: p.descendantElements k :=
    fun m hm => List.mem_flatMap.mpr ⟨m, hm, List.mem_cons_self⟩
  cases c with
  | descendant => exact List.Subset.refl _
  | child =>
    intro m hm
    obtain ⟨hm, hparent⟩ := (Page.mem_childElements h).mp hm
    refine (Page.mem_descendantElements h).mpr ⟨hm, ?_⟩
    rw [h.ancestors_of_child hparent]
    exact List.mem_cons_self
  | laterSibling => exact hbeside
  | nextSibling => exact fun m hm => hbeside (List.mem_of_head? (Option.mem_toList.mp hm))

/-- Of the elements that are tried, the combinator leads back from those that are found from left to
right. -/
theorem mem_reach_and_candidates (h : p.tree.Valid) (hn : p.isElement n = true)
    (c : Combinator) : m ∈ c.reach p n ∧ n ∈ c.candidates p m ↔ m ∈ p.related n c := by
  rw [mem_candidates h]
  constructor
  · rintro ⟨hreach, hleads⟩
    exact (mem_related h hn c).mpr ⟨isElement_of_mem_reach hreach, hleads⟩
  · intro hm
    exact ⟨related_subset_reach h.toSound c hm, ((mem_related h hn c).mp hm).2⟩

end Combinator

/-! ## Relative selectors -/

/-- The pseudo-class `:has()` with the combinator before each of the compounds. -/
def Combinator.has (c : Combinator) (list : List (List Simple)) : Simple :=
  .has (list.map fun simples => .step simples c .anchor)

theorem someReached_iff {list : List Complex} :
    someReached p n list = true ↔ ∃ c ∈ list, ∃ m ∈ c.lead.reach p n,
      (c.search p true (some n) m).isFound = true := by
  induction list with
  | nil => simp [someReached]
  | cons c list ih => simp [someReached, ih]

/-- A relative selector with one compound. -/
theorem isFound_search_anchor (h : p.tree.Sound) {c : Combinator} {simples : List Simple} :
    ((Complex.step simples c .anchor).search p true (some n) m).isFound = true ↔
      compoundHolds p true (some n) m simples = true ∧ n ∈ c.candidates p m := by
  rw [Complex.isFound_search_iff h, Complex.Selects]
  refine and_congr_right fun _ => ?_
  simp [Combinator.Via, Complex.Selects]

theorem Simple.holds_has (h : p.tree.Sound) {c : Combinator} {list : List (List Simple)} :
    (c.has list).holds p none n = true ↔ ∃ simples ∈ list, ∃ m ∈ c.reach p n,
      compoundHolds p true (some n) m simples = true ∧ n ∈ c.candidates p m := by
  rw [Combinator.has, Simple.holds, someReached_iff]
  simp only [List.mem_map, exists_exists_and_eq_and, isFound_search_anchor h, Complex.lead]

theorem compoundHolds_anchor {nested : Bool} {anchor : Option NodeId} {simples : List Simple}
    (hs : compoundAvoidsHas simples = true) :
    compoundHolds p nested anchor n simples = compoundHolds p nested none n simples := by
  rw [compoundHolds, compoundHolds, allHold_anchor p anchor n simples hs]

namespace Page

theorem hasRelated_iff {c : Combinator} {list : List (List Simple)} :
    p.hasRelated n c (list.map .ofCompound) = true ↔
      ∃ m ∈ p.related n c, ∃ simples ∈ list, p.isMatch m [.ofCompound simples] none = true := by
  rw [hasRelated, List.any_eq_true]
  refine exists_congr fun m => and_congr_right fun _ => ?_
  rw [isMatch_iff_exists]
  simp only [List.mem_map, exists_exists_and_eq_and]

/-- In any mode, `:has()` finds the same if the compounds are put as they have to stand in an
argument. -/
theorem hasRelated_asArgument (h : p.tree.Valid) (hn : p.isElement n = true) (c : Combinator)
    {list : List (List Simple)} (hlist : ∀ simples ∈ list, compoundAvoidsHas simples = true) :
    p.hasRelated n c (list.map .ofCompound) =
      p.isMatch n [.ofCompound [c.has (list.map (compoundAsArgument p.mode))]] none := by
  -- An element that is tried counts if it matches the compound and the combinator leads back.
  have hone : ∀ simples ∈ list, ∀ m,
      (m ∈ p.related n c ∧ p.isMatch m [.ofCompound simples] none = true ↔
        m ∈ c.reach p n ∧ compoundHolds p true (some n) m (compoundAsArgument p.mode simples) = true ∧
          n ∈ c.candidates p m) := by
    intro simples hs m
    rw [compoundHolds_asArgument, compoundHolds_anchor (hlist simples hs), and_left_comm,
      Combinator.mem_reach_and_candidates h hn, and_comm, Complex.isMatch_ofCompound]
    refine and_congr_left fun hm => ?_
    rw [((Combinator.mem_related h hn c).mp hm).1, eq_self, true_and]
  rw [isMatch_singleton hn rfl, Bool.eq_iff_iff, hasRelated_iff, Simple.holds_has h.toSound]
  simp only [List.mem_map, exists_exists_and_eq_and]
  constructor
  · rintro ⟨m, hm, simples, hs, hmatch⟩
    exact ⟨simples, hs, m, (hone simples hs m).mp ⟨hm, hmatch⟩⟩
  · rintro ⟨simples, hs, m, hreached⟩
    obtain ⟨hm, hmatch⟩ := (hone simples hs m).mpr hreached
    exact ⟨m, hm, simples, hs, hmatch⟩

end Page

namespace Document

/-- After any edits of a document, an element is related to one that matches a compound of the list
exactly if it matches `:has()` with these compounds, the combinator before each of them. -/
theorem hasRelated_run (doctype : Option String) (o : Options) (os : List Operation) (n : NodeId)
    (c : Combinator) (list : List (List Simple)) :
    let p := ((create doctype o).run os).page
    p.isElement n = true →
      (∀ simples ∈ list, compoundAvoidsHas simples = true ∧
        (p.mode.isQuirks = false ∨ compoundAvoidsHover simples = true)) →
      p.hasRelated n c (list.map .ofCompound) = p.isMatch n [.ofCompound [c.has list]] none := by
  intro p hn hlist
  have hsame : list.map (compoundAsArgument p.mode) = list := by
    rw [List.map_congr_left fun simples hs => compoundAsArgument_eq_self (hlist simples hs).2,
      List.map_id']
  have hhas := fun simples hs => (hlist simples hs).1
  rw [Page.hasRelated_asArgument (run_valid doctype o os) hn c hhas, hsame]

theorem hasRelated_run_hover :
    let os : List Operation :=
      [.createElement "div", .createElement "p", .insertBefore Tree.root 2 none,
        .insertBefore 2 3 none, .setState 3 [.hover] true]
    let p := ((create (some "html") .default).run os).page
    let list : List (List Simple) := [[.pseudoClass .hover]]
    p.isElement 2 = true ∧
      (∀ simples ∈ list, compoundAvoidsHas simples = true ∧
        (p.mode.isQuirks = false ∨ compoundAvoidsHover simples = true)) ∧
      p.hasRelated 2 .child (list.map .ofCompound) = true ∧
      p.hasRelated 2 .child (list.map .ofCompound) =
        p.isMatch 2 [.ofCompound [Combinator.child.has list]] none := by
  intro os p list
  have hn : p.isElement 2 = true := by decide
  have hlist : ∀ simples ∈ list, compoundAvoidsHas simples = true ∧
      (p.mode.isQuirks = false ∨ compoundAvoidsHover simples = true) := by decide
  exact ⟨hn, hlist, by decide, hasRelated_run (some "html") .default os 2 .child list hn hlist⟩

/-! ## Quirks mode -/

/-- After any edits of a document, in quirks mode or not, positions and relations agree with the
pseudo-classes that test them if `:any-link` is added, in quirks mode, to the compounds of their
arguments that say nothing but `:hover` and `:active`. -/
theorem agree_asArgument_run (doctype : Option String) (o : Options) (os : List Operation)
    (n : NodeId) :
    let p := ((create doctype o).run os).page
    p.isElement n = true →
      (∀ (formula : AnPlusB) (filter : SiblingFilter) (fromEnd : Bool), filter.NamesNoPseudo →
        (∀ i, p.siblingIndex? n filter fromEnd = some i → formula.Measures i) →
          p.hasPosition n formula filter fromEnd =
            p.isMatch n [.ofCompound [(filter.asArgument p.mode).test formula fromEnd]] none) ∧
      ∀ (c : Combinator) (list : List (List Simple)),
        (∀ simples ∈ list, compoundAvoidsHas simples = true) →
          p.hasRelated n c (list.map .ofCompound) =
            p.isMatch n [.ofCompound [c.has (list.map (compoundAsArgument p.mode))]] none := by
  intro p hn
  refine ⟨fun formula filter fromEnd hfilter hfits => ?_, fun c list hlist => ?_⟩
  · exact Page.hasPosition_asArgument hn hfilter hfits
  · exact Page.hasRelated_asArgument (run_valid doctype o os) hn c hlist

theorem agree_asArgument_run_hover :
    let os : List Operation :=
      [.createElement "div", .createElement "p", .insertBefore Tree.root 1 none,
        .insertBefore 1 2 none, .setState 1 [.hover] true, .setState 2 [.hover] true]
    let p := ((create none .default).run os).page
    let hover : List Simple := [.pseudoClass .hover]
    let filter : SiblingFilter := .matching [.ofCompound hover, .ofCompound [.universal]]
    p.mode.isQuirks = true ∧ p.isElement 1 = true ∧ filter.NamesNoPseudo ∧
      (∀ i, p.siblingIndex? 1 filter false = some i → AnPlusB.Measures ⟨0, 1⟩ i) ∧
      (∀ simples ∈ [hover], compoundAvoidsHas simples = true) ∧
      p.hasPosition 1 ⟨0, 1⟩ filter false =
        p.isMatch 1 [.ofCompound [(filter.asArgument p.mode).test ⟨0, 1⟩ false]] none ∧
      p.hasRelated 1 .child ([hover].map .ofCompound) =
        p.isMatch 1 [.ofCompound [Combinator.child.has ([hover].map (compoundAsArgument p.mode))]]
          none := by
  intro os p hover filter
  have hn : p.isElement 1 = true := by decide
  have hfilter : filter.NamesNoPseudo := by
    intro s hs
    rcases List.mem_pair.mp hs with rfl | rfl
    · rfl
    · rfl
  have hindex : p.siblingIndex? 1 filter false = some 1 := by decide
  have hfits : ∀ i, p.siblingIndex? 1 filter false = some i → AnPlusB.Measures ⟨0, 1⟩ i := by
    intro i hi
    obtain rfl := Option.some.inj (hindex.symm.trans hi)
    decide
  have hlist : ∀ simples ∈ [hover], compoundAvoidsHas simples = true := by decide
  obtain ⟨hposition, hrelated⟩ := agree_asArgument_run none .default os 1 hn
  exact ⟨by decide, hn, hfilter, hfits, hlist, hposition ⟨0, 1⟩ filter false hfilter hfits,
    hrelated .child [hover] hlist⟩

/-- Without the addition they do not agree: below a `div`, there is a `p` under the pointer. -/
theorem disagree_hover_run :
    let os : List Operation :=
      [.createElement "div", .createElement "p", .insertBefore Tree.root 1 none,
        .insertBefore 1 2 none, .setState 2 [.hover] true]
    let p := ((create none .default).run os).page
    let hover : List Simple := [.pseudoClass .hover]
    let filter : SiblingFilter := .matching [.ofCompound hover]
    p.mode.isQuirks = true ∧
      p.hasPosition 2 ⟨0, 1⟩ filter false = false ∧
      p.isMatch 2 [.ofCompound [filter.test ⟨0, 1⟩ false]] none = true ∧
      p.hasRelated 1 .child [.ofCompound hover] = false ∧
      p.isMatch 1 [.ofCompound [Combinator.child.has [hover]]] none = true := by
  decide

end Document

end StyleTree
