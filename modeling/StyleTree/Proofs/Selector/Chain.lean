import StyleTree.Document.Edit
import StyleTree.Proofs.Selector.Search
import StyleTree.Selector.Parser

/-!
# What complex selectors mean

A complex selector is a chain of compounds with combinators between them. An element of a document
matches it exactly if elements can be assigned to the compounds so that each matches its compound
alone, and each combinator leads from one element to the next. Every selector that is read from a
text, outside the arguments of pseudo-classes, is such a chain.
-/

namespace StyleTree

/-- The compound alone, as a selector. -/
def Selector.ofCompound (simples : List Simple) : Selector :=
  ⟨.compound simples, none⟩

namespace Complex

/-- The selector with the given subject. The compounds on the left of it come in the order from
right to left, each after the combinator that leads to it. -/
def chain (subject : List Simple) : List (Combinator × List Simple) → Complex
  | [] => .compound subject
  | (c, simples) :: left => .step subject c (chain simples left)

/-- The list holds an element for each compound on the left of `n`: the combinator leads to it, and
it matches the compound alone. -/
inductive Assigned (p : Page) : NodeId → List (Combinator × List Simple) → List NodeId → Prop where
  | nil {n : NodeId} : Assigned p n [] []
  | cons {n m : NodeId} {c : Combinator} {simples : List Simple}
    {left : List (Combinator × List Simple)} {es : List NodeId}
    (hleads : c.Leads p n m) (hmatch : p.isMatch m [.ofCompound simples] none = true)
    (hrest : Assigned p m left es) : Assigned p n ((c, simples) :: left) (m :: es)

end Complex

/-! ## Reading -/

/-- The selector is a chain of compounds: it does not start as a relative selector does. -/
def Complex.IsChain (c : Complex) : Prop :=
  ∃ subject left, c = .chain subject left

/-- Each result of a list comes from one of its members. -/
theorem exists_of_mem_mapM {α β : Type} {f : α → Option β} {xs : List α} {ys : List β} {y : β}
    (h : xs.mapM f = some ys) (hy : y ∈ ys) : ∃ x ∈ xs, f x = some y := by
  induction xs generalizing ys with
  | nil =>
    obtain rfl : ys = [] := by simpa using h.symm
    cases hy
  | cons x xs ih =>
    simp only [List.mapM_cons, Option.bind_eq_bind, Option.bind_eq_some_iff, Option.pure_def,
      Option.some.injEq] at h
    obtain ⟨z, hz, zs, hzs, rfl⟩ := h
    rcases List.mem_cons.mp hy with rfl | hy
    · exact ⟨x, List.mem_cons_self, hz⟩
    · obtain ⟨x', hx', hf⟩ := ih hzs hy
      exact ⟨x', List.mem_cons_of_mem x hx', hf⟩

namespace SelectorReader

open Css

theorem bind_eq_ok {α β : Type} {x : SelectorReader α} {f : α → SelectorReader β}
    {vs rest : List ComponentValue} {b : β} (h : (x >>= f) vs = .ok b rest) :
    ∃ a us, x vs = .ok a us ∧ f a us = .ok b rest := by
  change EStateM.bind x f vs = _ at h
  unfold EStateM.bind at h
  split at h
  · exact ⟨_, _, ‹_›, h⟩
  · cases h

variable {nested : NestedReader} {place : SelectorPlace} {vs rest : List ComponentValue}
  {s : Selector}

/-- A chain goes on with a compound. -/
theorem isChain_extend (simples : List Simple) (left : Option (Complex × Combinator)) :
    (∀ l c, left = some (l, c) → l.IsChain) →
      (match left with
        | none => .compound simples
        | some (left, c) => .step simples c left : Complex).IsChain := by
  intro hleft
  rcases left with _ | ⟨l, c⟩
  · exact ⟨simples, [], rfl⟩
  · obtain ⟨subject, left, rfl⟩ := hleft l c rfl
    exact ⟨simples, (c, subject) :: left, rfl⟩

theorem isChain_steps {limit : Nat} {left : Option (Complex × Combinator)}
    (hleft : ∀ l c, left = some (l, c) → l.IsChain)
    (h : steps nested place limit left vs = .ok s rest) : s.complex.IsChain := by
  induction limit generalizing left vs with
  | zero => cases h
  | succ limit ih =>
    unfold steps at h
    obtain ⟨c, us, -, h⟩ := bind_eq_ok h
    have hhere := isChain_extend c.simples left hleft
    dsimp only at h
    split at h
    · cases h
    split at h
    · cases h
      exact hhere
    obtain ⟨combinator, us', -, h⟩ := bind_eq_ok h
    split at h
    · cases h
      exact hhere
    split at h
    · cases h
    refine ih ?_ h
    rintro l c' hl
    cases hl
    exact hhere

theorem isChain_entry (h : entry nested place .strict vs = .ok s rest) : s.complex.IsChain := by
  unfold entry at h
  obtain ⟨us, vs', -, h⟩ := bind_eq_ok h
  obtain ⟨us, vs', -, h⟩ := bind_eq_ok h
  obtain ⟨us, vs', -, h⟩ := bind_eq_ok h
  refine isChain_steps ?_ h
  rintro l c hl
  cases hl

theorem isChain_entryOf (h : entryOf nested place .strict vs = .ok s) : s.complex.IsChain := by
  unfold entryOf at h
  split at h
  next he =>
    split at h
    · cases h
      exact isChain_entry he
    · cases h
  · cases h

end SelectorReader

theorem eq_ok_of_toOption {ε α : Type} {x : Except ε α} {a : α} (h : x.toOption = some a) :
    x = .ok a := by
  cases x with
  | error e => cases h
  | ok b =>
    cases h
    rfl

/-- A selector of a list that is read from a text is read from one of the pieces between commas. -/
theorem Selector.exists_entryOf {text : String} {list : List Selector} {s : Selector}
    (h : parseList? text = some list) (hs : s ∈ list) :
    ∃ piece ∈ pieces (·.isToken .comma) (Css.values text),
      SelectorReader.entryOf (SelectorReader.nestedList (Css.depthOf (Css.values text)))
        ⟨false, false, false, false⟩ .strict piece = .ok s := by
  rw [parseList?, ofValues?] at h
  obtain ⟨piece, hpiece, hread⟩ := exists_of_mem_mapM h hs
  exact ⟨piece, hpiece, eq_ok_of_toOption hread⟩

/-- Every selector of a list that is read from a text is a chain of compounds. -/
theorem Selector.isChain_of_parseList? {text : String} {list : List Selector}
    (h : parseList? text = some list) : ∀ s ∈ list, s.complex.IsChain := by
  intro s hs
  obtain ⟨piece, -, hread⟩ := exists_entryOf h hs
  exact SelectorReader.isChain_entryOf hread

/-! ## Matching -/

namespace Page

variable {p : Page} {n : NodeId}

theorem isMatch_iff {list : List Selector} {pseudo : Option PseudoElement} :
    p.isMatch n list pseudo = true ↔
      p.isElement n = true ∧ ∃ s ∈ list, s.holds p pseudo n = true := by
  rw [isMatch, matchedIndex?]
  split
  next hn => simp [hn]
  next hn => simp [hn]

/-- To match a list is to match one of its selectors. -/
theorem isMatch_iff_exists {list : List Selector} {pseudo : Option PseudoElement} :
    p.isMatch n list pseudo = true ↔ ∃ s ∈ list, p.isMatch n [s] pseudo = true := by
  simp only [isMatch_iff, List.mem_singleton, exists_eq_left]
  exact ⟨fun ⟨hn, s, hs, h⟩ => ⟨s, hs, hn, h⟩, fun ⟨s, hs, hn, h⟩ => ⟨hn, s, hs, h⟩⟩

theorem isMatch_complex {c : Complex} :
    p.isMatch n [⟨c, none⟩] none = true ↔ p.isElement n = true ∧ c.holds p n = true := by
  simp [isMatch_iff, Selector.holds, Selector.pseudoElement]

end Page

namespace Complex

variable {p : Page} {n : NodeId}

theorem isMatch_ofCompound {simples : List Simple} :
    p.isMatch n [.ofCompound simples] none = true ↔
      p.isElement n = true ∧ compoundHolds p false none n simples = true := by
  rw [Selector.ofCompound, Page.isMatch_complex, holds, search_compound]
  split <;> simp_all [SearchResult.isFound]

theorem exists_assigned_cons {c : Combinator} {simples : List Simple}
    {left : List (Combinator × List Simple)} :
    (∃ es, Assigned p n ((c, simples) :: left) es) ↔
      ∃ m, c.Leads p n m ∧ p.isMatch m [.ofCompound simples] none = true ∧
        ∃ es, Assigned p m left es := by
  constructor
  · rintro ⟨es, hes⟩
    cases hes with
    | cons hleads hmatch hrest => exact ⟨_, hleads, hmatch, _, hrest⟩
  · rintro ⟨m, hleads, hmatch, es, hrest⟩
    exact ⟨m :: es, .cons hleads hmatch hrest⟩

/-- The search for the elements on the left assigns them compound by compound. -/
theorem selects_chain_iff (h : p.tree.Valid) {subject : List Simple}
    {left : List (Combinator × List Simple)} :
    (chain subject left).Selects p false none n ↔
      compoundHolds p false none n subject = true ∧ ∃ es, Assigned p n left es := by
  induction left generalizing subject n with
  | nil =>
    refine (and_iff_left ?_).symm
    exact ⟨[], .nil⟩
  | cons step left ih =>
    obtain ⟨c, simples⟩ := step
    refine and_congr_right fun _ => ?_
    rw [exists_assigned_cons, Combinator.Via]
    refine exists_congr fun m => ?_
    rw [Combinator.mem_candidates h, ih, isMatch_ofCompound, and_assoc]
    refine and_congr_right fun hm => ?_
    rw [hm.isElement, eq_self, true_and]

theorem isMatch_chain_iff (h : p.tree.Valid) {subject : List Simple}
    {left : List (Combinator × List Simple)} :
    p.isMatch n [⟨chain subject left, none⟩] none = true ↔
      p.isMatch n [.ofCompound subject] none = true ∧ ∃ es, Assigned p n left es := by
  rw [Page.isMatch_complex, holds, isFound_search_iff h.toSound, selects_chain_iff h,
    isMatch_ofCompound, and_assoc]

end Complex

/-- After any edits of a document, whatever came of them, an element matches a complex selector
exactly if it matches the subject, and there are elements to which the combinators lead one after
another and which match the other compounds, each of them alone. -/
theorem Document.isMatch_chain_run (doctype : Option String) (o : Options)
    (os : List Operation) (n : NodeId) (subject : List Simple)
    (left : List (Combinator × List Simple)) :
    let p := ((create doctype o).run os).page
    p.isMatch n [⟨.chain subject left, none⟩] none = true ↔
      p.isMatch n [.ofCompound subject] none = true ∧ ∃ es, Complex.Assigned p n left es :=
  Complex.isMatch_chain_iff (run_valid doctype o os)

end StyleTree
