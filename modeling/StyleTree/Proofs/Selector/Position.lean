import StyleTree.Proofs.Selector.Arguments
import StyleTree.Proofs.Selector.Chain

/-!
# Positions and the selectors that test them

Positions among siblings are counted twice: for who has an element at hand, and for pseudo-classes
such as `:nth-child()`. Both counts agree as long as the numbers have 32 bits, once the selectors
that say which siblings count are put as they have to stand in an argument.
-/

namespace StyleTree

/-! ## Formulas -/

namespace AnPlusB

/-- The position is a number of 32 bits, and so is its distance from the offset. -/
def Measures (f : AnPlusB) (i : Nat) : Prop :=
  i ≤ 2147483647 ∧ -2147483648 ≤ i - f.offset ∧ i - f.offset ≤ 2147483647

instance (f : AnPlusB) (i : Nat) : Decidable (f.Measures i) :=
  inferInstanceAs (Decidable (_ ∧ _ ∧ _))

theorem emod_eq_zero_iff_mul_tdiv {a b : Int} : a % b = 0 ↔ b * a.tdiv b = a := by
  rw [← Int.dvd_iff_emod_eq_zero]
  exact ⟨Int.mul_tdiv_cancel', fun h => ⟨_, h.symm⟩⟩

/-- To look at the remainder is to multiply the quotient again. -/
theorem selects_eq_admits {f : AnPlusB} {i : Nat} (h : f.Measures i) :
    f.selects i = f.admits i := by
  have hfits : ¬((i : Int) - f.offset < -2147483648 ∨ 2147483647 < (i : Int) - f.offset) := by
    obtain ⟨-, hlow, hhigh⟩ := h
    omega
  simp only [selects, admits, if_neg hfits]
  congr 1
  rw [decide_eq_decide.mpr emod_eq_zero_iff_mul_tdiv, Bool.and_comm, ← Bool.beq_eq_decide_eq]

/-- The only position is the first one. -/
theorem admits_one (k : Nat) : (⟨0, 1⟩ : AnPlusB).admits (1 + k) = (k == 0) := by
  have hdistance : (1 + k : Int) - 1 = k := by omega
  rw [Bool.eq_iff_iff]
  simp only [admits, hdistance, if_true]
  split
  next => simp; omega
  next => simp

end AnPlusB

/-! ## Lists in arguments -/

namespace Selector

/-- The selector as it has to stand in an argument. -/
def asArgument (m : Mode) (s : Selector) : Selector :=
  ⟨s.complex.asArgument m, s.pseudo⟩

/-- The selector means the same in an argument: it names no pseudo-element, and the page is not in
quirks mode, or neither `:hover` nor `:active` occurs. -/
def FitsArgument (m : Mode) (s : Selector) : Prop :=
  s.pseudo = none ∧ (m.isQuirks = false ∨ s.complex.avoidsHover = true)

theorem FitsArgument.asArgument_eq {m : Mode} {s : Selector} (h : s.FitsArgument m) :
    s.asArgument m = s := by
  rw [asArgument, Complex.asArgument_eq_self h.2]

end Selector

variable {p : Page} {n : NodeId}

theorem someHolds_asArgument (anchor : Option NodeId) (list : List Selector) :
    someHolds p true anchor n (list.map fun s => (s.asArgument p.mode).complex) =
      list.any fun s => (s.complex.search p false anchor n).isFound := by
  induction list with
  | nil => rw [List.map_nil, someHolds, List.any_nil]
  | cons s list ih =>
    rw [List.map_cons, someHolds, Selector.asArgument, s.complex.search_asArgument, ih,
      List.any_cons]

namespace Page

/-- An element matches a list exactly if it matches it as an argument. -/
theorem isMatch_eq_someHolds {list : List Selector} (hn : p.isElement n = true)
    (hlist : ∀ s ∈ list, s.pseudo = none) :
    p.isMatch n list none =
      someHolds p true none n (list.map fun s => (s.asArgument p.mode).complex) := by
  rw [someHolds_asArgument, Bool.eq_iff_iff, isMatch_iff, List.any_eq_true]
  simp only [hn, true_and]
  refine exists_congr fun s => and_congr_right fun hs => ?_
  simp [Selector.holds, Selector.pseudoElement, hlist s hs, Complex.holds]

/-- A simple selector alone, unless it is `:hover` or `:active`. -/
theorem isMatch_singleton {s : Simple} (hn : p.isElement n = true)
    (hs : s.isActiveOrHover = false) :
    p.isMatch n [.ofCompound [s]] none = s.holds p none n := by
  rw [Bool.eq_iff_iff, Complex.isMatch_ofCompound]
  simp [hn, compoundHolds, allHold, isBarredHover, hs]

end Page

/-! ## Counts -/

namespace SiblingFilter

/-- The end from which the position counts. -/
def side (fromEnd : Bool) : NthSide :=
  if fromEnd then .last else .first

/-- The pseudo-class that tests positions among the siblings that the filter accepts. -/
def test (formula : AnPlusB) (fromEnd : Bool) : SiblingFilter → Simple
  | any => .nth ⟨side fromEnd, false, formula, true⟩
  | sameType => .nth ⟨side fromEnd, true, formula, true⟩
  | matching list => .nthOf ⟨side fromEnd, false, formula, true⟩ (list.map (·.complex))

/-- The filter, its selectors put as they have to stand in an argument. -/
def asArgument (m : Mode) : SiblingFilter → SiblingFilter
  | matching list => .matching (list.map (·.asArgument m))
  | filter => filter

/-- No selector of the filter names a pseudo-element. -/
def NamesNoPseudo : SiblingFilter → Prop
  | matching list => ∀ s ∈ list, s.pseudo = none
  | _ => True

/-- The selectors of the filter mean the same in an argument. -/
def FitsArgument (m : Mode) : SiblingFilter → Prop
  | matching list => ∀ s ∈ list, s.FitsArgument m
  | _ => True

theorem FitsArgument.asArgument_eq {m : Mode} {filter : SiblingFilter}
    (h : filter.FitsArgument m) : filter.asArgument m = filter := by
  cases filter with
  | matching list =>
    rw [asArgument, List.map_congr_left fun s hs => (h s hs).asArgument_eq, List.map_id']
  | any => rfl
  | sameType => rfl

theorem FitsArgument.namesNoPseudo {m : Mode} {filter : SiblingFilter}
    (h : filter.FitsArgument m) : filter.NamesNoPseudo := by
  cases filter with
  | matching list => exact fun s hs => (h s hs).1
  | any => trivial
  | sameType => trivial

end SiblingFilter

namespace Page

theorem isSameType_self (hn : p.isElement n = true) : p.isSameType n n = true := by
  obtain ⟨e, he⟩ : ∃ e, p.element? n = some e := Option.isSome_iff_exists.mp hn
  simp [isSameType, he, Element.isSameType, Ascii.eqIgnoreCase]

/-- The siblings between an element and the end that its position counts from. -/
def siblingsFrom (p : Page) (fromEnd : Bool) (n : NodeId) : List NodeId :=
  if fromEnd then p.followingElements n else p.precedingElements n

theorem isElement_of_mem_siblingsFrom {m : NodeId} {fromEnd : Bool}
    (hm : m ∈ p.siblingsFrom fromEnd n) : p.isElement m = true := by
  cases fromEnd <;> exact List.of_mem_filter hm

theorem holds_side {counts : NodeId → Bool} (fromEnd ofType : Bool) (formula : AnPlusB) :
    NthTest.holds p ⟨SiblingFilter.side fromEnd, ofType, formula, true⟩ counts n =
      formula.admits (1 + (p.siblingsFrom fromEnd n).countP counts : Nat) := by
  rw [Int.natCast_add]
  cases fromEnd <;> rfl

variable {filter : SiblingFilter} {fromEnd : Bool} {counts : NodeId → Bool}

/-- The position for a filter that accepts the elements that count. -/
theorem siblingIndex?_eq (hn : p.isElement n = true)
    (hcounts : ∀ m, p.isElement m = true → filter.accepts p n m = counts m) :
    p.siblingIndex? n filter fromEnd =
      if counts n then some (1 + (p.siblingsFrom fromEnd n).countP counts) else none := by
  have hsame : (p.siblingsFrom fromEnd n).countP (filter.accepts p n ·) =
      (p.siblingsFrom fromEnd n).countP counts :=
    List.countP_congr fun m hm => by rw [hcounts m (isElement_of_mem_siblingsFrom hm)]
  rw [siblingIndex?, hcounts n hn, ← hsame]
  rfl

theorem hasPosition_of_siblingIndex? {formula : AnPlusB} {i : Nat}
    (hi : p.siblingIndex? n filter fromEnd = some i) (h : formula.Measures i) :
    p.hasPosition n formula filter fromEnd = formula.admits i := by
  have hlt : (i : Int) < 2147483648 := by
    have := h.1
    omega
  have hselects : p.hasPosition n formula filter fromEnd =
      (decide ((i : Int) < 2147483648) && formula.selects i) := by
    rw [hasPosition, hi, Option.bind_eq_bind, Option.bind_some, Option.pure_def, Option.any_some]
  rw [hselects, decide_eq_true hlt, Bool.true_and, AnPlusB.selects_eq_admits h]

/-- The formula selects the position exactly if the pseudo-class does. -/
theorem hasPosition_eq {formula : AnPlusB} (ofType : Bool) (hn : p.isElement n = true)
    (hcounts : ∀ m, p.isElement m = true → filter.accepts p n m = counts m)
    (hfits : ∀ i, p.siblingIndex? n filter fromEnd = some i → formula.Measures i) :
    p.hasPosition n formula filter fromEnd =
      (counts n &&
        NthTest.holds p ⟨SiblingFilter.side fromEnd, ofType, formula, true⟩ counts n) := by
  have hindex := @siblingIndex?_eq p n filter fromEnd counts hn hcounts
  rw [holds_side]
  cases hself : counts n with
  | false =>
    rw [hself, if_neg Bool.false_ne_true] at hindex
    rw [hasPosition, hindex]
    rfl
  | true =>
    rw [hself, if_pos rfl] at hindex
    rw [hasPosition_of_siblingIndex? hindex (hfits _ hindex), Bool.true_and]

/-- In any mode, the count agrees with the pseudo-class whose argument is put as it has to
stand there. -/
theorem hasPosition_asArgument {formula : AnPlusB} (hn : p.isElement n = true)
    (hfilter : filter.NamesNoPseudo)
    (hfits : ∀ i, p.siblingIndex? n filter fromEnd = some i → formula.Measures i) :
    p.hasPosition n formula filter fromEnd =
      p.isMatch n [.ofCompound [(filter.asArgument p.mode).test formula fromEnd]] none := by
  cases filter with
  | any =>
    simp only [SiblingFilter.asArgument, SiblingFilter.test]
    rw [isMatch_singleton hn rfl, Simple.holds]
    exact hasPosition_eq false hn (fun _ _ => rfl) hfits
  | sameType =>
    simp only [SiblingFilter.asArgument, SiblingFilter.test]
    rw [isMatch_singleton hn rfl, Simple.holds, hasPosition_eq true hn (fun _ _ => rfl) hfits,
      SiblingFilter.accepts, isSameType_self hn]
    rfl
  | matching list =>
    have hcounts : ∀ m, p.isElement m = true → (SiblingFilter.matching list).accepts p n m =
        someHolds p true none m (list.map fun s => (s.asArgument p.mode).complex) :=
      fun m hm => isMatch_eq_someHolds hm hfilter
    simp only [SiblingFilter.asArgument, SiblingFilter.test]
    rw [isMatch_singleton hn rfl, Simple.holds, List.map_map]
    exact hasPosition_eq false hn hcounts hfits

/-! ## First, last and only ones -/

/-- None of the elements counts, all or just those of the type of the element. -/
def noneCounts (p : Page) (ofType : Bool) (n : NodeId) (l : List NodeId) : Bool :=
  l.all fun m => !(!ofType || p.isSameType n m)

/-- No sibling counts on the way to the end. -/
theorem holdsFrom_implied (side : NthSide) (ofType : Bool) (counts : NodeId → Bool) :
    (NthTest.implied side ofType).holdsFrom p fromEnd counts n =
      (p.siblingsFrom fromEnd n).all (!counts ·) := by
  rw [NthTest.holdsFrom, NthTest.implied]
  refine (AnPlusB.admits_one _).trans ?_
  rw [Bool.eq_iff_iff, beq_iff_eq, List.countP_eq_zero, List.all_eq_true]
  simp only [Bool.not_eq_true, Bool.not_eq_true']
  rfl

/-- What the pseudo-classes without a formula say of the siblings on each side. -/
theorem isMatch_implied (hn : p.isElement n = true) (side : NthSide) (ofType : Bool) :
    p.isMatch n [.ofCompound [.nth (.implied side ofType)]] none =
      match side with
      | .first => p.noneCounts ofType n (p.precedingElements n)
      | .last => p.noneCounts ofType n (p.followingElements n)
      | .only => p.noneCounts ofType n (p.precedingElements n) &&
        p.noneCounts ofType n (p.followingElements n) := by
  rw [isMatch_singleton hn rfl, Simple.holds, NthTest.holds]
  cases side <;> simp only [holdsFrom_implied] <;> rfl

theorem noneCounts_false (l : List NodeId) : p.noneCounts false n l = l.isEmpty := by
  cases l <;> rfl

theorem noneCounts_true (l : List NodeId) :
    p.noneCounts true n l = l.all (!p.isSameType n ·) := rfl

end Page

/-- Whatever a page looks like, the positions that are counted for its elements agree with the
pseudo-classes that test them. -/
theorem Page.positions_agree (p : Page) (n : NodeId) (hn : p.isElement n = true) :
    (∀ (formula : AnPlusB) (filter : SiblingFilter) (fromEnd : Bool),
      filter.FitsArgument p.mode →
      (∀ i, p.siblingIndex? n filter fromEnd = some i → formula.Measures i) →
        p.hasPosition n formula filter fromEnd =
          p.isMatch n [.ofCompound [filter.test formula fromEnd]] none) ∧
    p.isFirstChild n = p.isMatch n [.ofCompound [.nth (.implied .first false)]] none ∧
    p.isLastChild n = p.isMatch n [.ofCompound [.nth (.implied .last false)]] none ∧
    p.isOnlyChild n = p.isMatch n [.ofCompound [.nth (.implied .only false)]] none ∧
    p.isFirstOfType n = p.isMatch n [.ofCompound [.nth (.implied .first true)]] none ∧
    p.isLastOfType n = p.isMatch n [.ofCompound [.nth (.implied .last true)]] none ∧
    p.isOnlyOfType n = p.isMatch n [.ofCompound [.nth (.implied .only true)]] none := by
  refine ⟨fun formula filter fromEnd hfilter hfits => ?_, ?_⟩
  · rw [hasPosition_asArgument hn hfilter.namesNoPseudo hfits, hfilter.asArgument_eq]
  · simp only [isMatch_implied hn, noneCounts_false, noneCounts_true]
    exact ⟨rfl, rfl, rfl, rfl, rfl, rfl⟩

theorem Page.positions_agree_hover :
    let os : List Operation :=
      [.createElement "div", .createElement "p", .createElement "p",
        .insertBefore Tree.root 2 none, .insertBefore 2 3 none, .insertBefore 2 4 none,
        .setState 4 [.hover] true]
    let p := ((Document.create (some "html") .default).run os).page
    let filter : SiblingFilter := .matching [.ofCompound [.pseudoClass .hover]]
    p.isElement 4 = true ∧ filter.FitsArgument p.mode ∧
      (∀ i, p.siblingIndex? 4 filter false = some i → AnPlusB.Measures ⟨2, 1⟩ i) ∧
      p.hasPosition 4 ⟨2, 1⟩ filter false = true ∧
      p.hasPosition 4 ⟨2, 1⟩ filter false =
        p.isMatch 4 [.ofCompound [filter.test ⟨2, 1⟩ false]] none := by
  intro os p filter
  have hn : p.isElement 4 = true := by decide
  have hstrict : p.mode.isQuirks = false := by decide
  have hfilter : filter.FitsArgument p.mode := by
    intro s hs
    obtain rfl := List.mem_singleton.mp hs
    exact ⟨rfl, .inl hstrict⟩
  have hindex : p.siblingIndex? 4 filter false = some 1 := by decide
  have hfits : ∀ i, p.siblingIndex? 4 filter false = some i → AnPlusB.Measures ⟨2, 1⟩ i := by
    intro i hi
    obtain rfl := Option.some.inj (hindex.symm.trans hi)
    decide
  exact ⟨hn, hfilter, hfits, by decide,
    (positions_agree p 4 hn).1 ⟨2, 1⟩ filter false hfilter hfits⟩

end StyleTree
