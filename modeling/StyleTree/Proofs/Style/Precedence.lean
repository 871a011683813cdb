import Mathlib.Order.Bounds.Basic
import StyleTree.Document.Edit
import StyleTree.Proofs.Sheets.Effective

/-!
# The rules that select an element

Among the rules that apply for the medium, numbered through all sheets, those with a selector that
matches are the blocks that a cascade gets, one for each. Their order is strict: no two of them have
the same number, so blocks of equal specificity are told apart.
-/

namespace StyleTree

namespace AppliedRule

/-- The block has less precedence than the other one. -/
def Below (a b : AppliedRule) : Prop :=
  a.specificity < b.specificity ∨ a.specificity = b.specificity ∧ a.sourceOrder < b.sourceOrder

theorem le_iff {a b : AppliedRule} : a.le b = true ↔
    a.specificity < b.specificity ∨
      a.specificity = b.specificity ∧ a.sourceOrder ≤ b.sourceOrder := by
  simp [le]

theorem le_trans (a b c : AppliedRule) (hab : a.le b = true) (hbc : b.le c = true) :
    a.le c = true := by
  rw [le_iff] at *
  omega

theorem le_total (a b : AppliedRule) : (a.le b || b.le a) = true := by
  rw [Bool.or_eq_true, le_iff, le_iff]
  omega

theorem below_of_le {a b : AppliedRule} (hle : a.le b = true)
    (hne : a.sourceOrder ≠ b.sourceOrder) : a.Below b := by
  rw [le_iff] at hle
  unfold Below
  omega

/-- Sorting blocks whose numbers are all different puts them into strict order. -/
theorem pairwise_mergeSort {blocks : List AppliedRule}
    (hne : blocks.Pairwise fun a b => a.sourceOrder ≠ b.sourceOrder) :
    (blocks.mergeSort le).Pairwise Below := by
  have hsorted : (blocks.mergeSort le).Pairwise (le · · = true) :=
    List.pairwise_mergeSort le_trans le_total blocks
  have hne : (blocks.mergeSort le).Pairwise fun a b => a.sourceOrder ≠ b.sourceOrder :=
    (List.mergeSort_perm blocks le).symm.pairwise hne fun hab => hab.symm
  exact hsorted.imp₂ (fun _ _ => below_of_le) hne

end AppliedRule

namespace CascadeInputs

variable (i : CascadeInputs)

/-- A selector matches what the styles are computed for: the element, or its pseudo-element. -/
def Selects (s : Selector) : Prop :=
  s.holds i.page i.pseudo i.node = true

theorem rules_eq : i.rules = i.sheets.flatMap fun s => Rule.effectiveOf i.medium s.rules := by
  simp only [rules, Stylesheet.effectiveRules_eq]

variable {i}

/-- The specificity of a rule for an element is the greatest of its selectors that match. -/
theorem matchingSpecificity?_eq_some_iff (hn : i.page.isElement i.node = true)
    {list : List Selector} {k : Nat} :
    i.page.matchingSpecificity? i.node list i.pseudo = some k ↔
      IsGreatest {k | ∃ s ∈ list, i.Selects s ∧ s.specificity = k} k := by
  rw [Page.matchingSpecificity?, Page.matchedSpecificities, if_pos hn, List.max?_eq_some_iff]
  simp [IsGreatest, upperBounds, Selects, and_assoc]

theorem exists_matchingSpecificity? (hn : i.page.isElement i.node = true) {list : List Selector}
    (h : ∃ s ∈ list, i.Selects s) :
    ∃ k, i.page.matchingSpecificity? i.node list i.pseudo = some k := by
  obtain ⟨s, hs, hselects⟩ := h
  rw [← Option.isSome_iff_exists, Page.matchingSpecificity?, Page.matchedSpecificities, if_pos hn,
    List.isSome_max?_iff]
  have hmem : s ∈ list.filter (·.holds i.page i.pseudo i.node) := List.mem_filter.mpr ⟨hs, hselects⟩
  exact List.ne_nil_of_mem (List.mem_map_of_mem hmem)

theorem mem_matchingRules (hn : i.page.isElement i.node = true) {b : AppliedRule} :
    b ∈ i.matchingRules ↔ ∃ rule, i.rules[b.sourceOrder]? = some rule ∧
      b.declarations = rule.declarations ∧
      IsGreatest {k | ∃ s ∈ rule.selectors, i.Selects s ∧ s.specificity = k} b.specificity := by
  rw [matchingRules, List.mem_mergeSort, List.mem_filterMap]
  constructor
  · rintro ⟨⟨rule, index⟩, hmem, hb⟩
    obtain ⟨k, hk, rfl⟩ := Option.map_eq_some_iff.mp hb
    rw [List.mk_mem_zipIdx_iff_getElem?] at hmem
    exact ⟨rule, hmem, rfl, (matchingSpecificity?_eq_some_iff hn).mp hk⟩
  · rintro ⟨rule, hrule, hdeclarations, hgreatest⟩
    refine ⟨(rule, b.sourceOrder), List.mk_mem_zipIdx_iff_getElem?.mpr hrule, ?_⟩
    rw [Option.map_eq_some_iff]
    refine ⟨b.specificity, (matchingSpecificity?_eq_some_iff hn).mpr hgreatest, ?_⟩
    rw [← hdeclarations]

theorem pairwise_matchingRules (i : CascadeInputs) :
    i.matchingRules.Pairwise AppliedRule.Below := by
  apply AppliedRule.pairwise_mergeSort
  rw [List.pairwise_filterMap]
  have hne : i.rules.zipIdx.Pairwise fun x y => x.2 ≠ y.2 := by
    rw [← List.pairwise_map (f := Prod.snd) (R := (· ≠ ·)), List.zipIdx_map_snd]
    exact List.nodup_range'
  refine hne.imp ?_
  intro x y hxy a ha b hb
  obtain ⟨_, _, rfl⟩ := Option.map_eq_some_iff.mp ha
  obtain ⟨_, _, rfl⟩ := Option.map_eq_some_iff.mp hb
  exact hxy

/-- The block of a rule with a selector that matches. No other block has its number. -/
theorem existsUnique_block (hn : i.page.isElement i.node = true) {index : Nat} {rule : StyleRule}
    (hrule : i.rules[index]? = some rule) (hselects : ∃ s ∈ rule.selectors, i.Selects s) :
    ∃! b, b ∈ i.matchingRules ∧ b.sourceOrder = index := by
  obtain ⟨k, hk⟩ := exists_matchingSpecificity? hn hselects
  rw [matchingSpecificity?_eq_some_iff hn] at hk
  refine ⟨⟨rule.declarations, k, index⟩, ⟨?_, rfl⟩, ?_⟩
  · exact (mem_matchingRules hn).mpr ⟨rule, hrule, rfl, hk⟩
  · rintro ⟨declarations, specificity, sourceOrder⟩ ⟨hb, rfl⟩
    obtain ⟨rule', hrule', rfl, hgreatest⟩ := (mem_matchingRules hn).mp hb
    obtain rfl := Option.some.inj (hrule.symm.trans hrule')
    obtain rfl : specificity = k := hgreatest.unique hk
    rfl

/-- The style rules of a sheet that apply for a medium are those that a descent visits which enters
the blocks whose media hold. Of the rules of several sheets in a row, exactly those with a selector
that matches the element, or its pseudo-element, give a block, one each: with the number of the rule
among all of them and the greatest specificity of its selectors that match. The blocks come in
strictly ascending order of specificity and then of number. -/
theorem matchingRules_effective (hn : i.page.isElement i.node = true) :
    let rules := i.sheets.flatMap fun s => Rule.effectiveOf i.medium s.rules
    (∀ (sheet : Stylesheet) (medium : String),
      sheet.effectiveRules medium = Rule.effectiveOf medium sheet.rules) ∧
      (∀ index rule, rules[index]? = some rule → (∃ s ∈ rule.selectors, i.Selects s) →
        ∃! b, b ∈ i.matchingRules ∧ b.sourceOrder = index) ∧
      (∀ b ∈ i.matchingRules, ∃ rule, rules[b.sourceOrder]? = some rule ∧
        b.declarations = rule.declarations ∧
        IsGreatest {k | ∃ s ∈ rule.selectors, i.Selects s ∧ s.specificity = k} b.specificity) ∧
      i.matchingRules.Pairwise AppliedRule.Below := by
  intro rules
  have hrules : i.rules = rules := i.rules_eq
  rw [← hrules]
  refine ⟨Stylesheet.effectiveRules_eq, ?_, ?_, i.pairwise_matchingRules⟩
  · intro index rule hrule hselects
    exact existsUnique_block hn hrule hselects
  · intro b hb
    exact (mem_matchingRules hn).mp hb

/-- On a screen the rule of the second sheet is the second one that applies: what is printed does
not count, and of what is for any medium only the rule in the inner block. -/
theorem matchingRules_effective_nested :
    let everything : Selector := ⟨.compound [.universal], none⟩
    let paragraphs : Selector := ⟨.compound [.localName "p"], none⟩
    let divisions : Selector := ⟨.compound [.localName "div"], none⟩
    let last : StyleRule := ⟨[everything, paragraphs], [], .start⟩
    let inner : Rule := .media (.parse "all") [.style ⟨[divisions], [], .start⟩]
    let first : Stylesheet := ⟨[.media (.parse "print") [.style last], .media (.parse "") [inner]],
      none⟩
    let i : CascadeInputs := {
      page := ((Document.create none .default).run [.createElement "p"]).page
      node := 1
      pseudo := none
      parent := none
      sheets := [first, ⟨[.style last], none⟩]
      styleAttribute := []
      hints := []
      registered := []
      medium := "screen"
    }
    i.page.isElement i.node = true ∧ (first.effectiveRules "screen").length = 1 ∧
      (∃ b ∈ i.matchingRules, b.sourceOrder = 1 ∧ b.specificity = paragraphs.specificity) ∧
      i.matchingRules.Pairwise AppliedRule.Below := by
  intro everything paragraphs divisions last inner first i
  have hn : i.page.isElement i.node = true := by decide
  obtain ⟨heffective, hone, hblock, horder⟩ := matchingRules_effective hn
  have hprint : (MediaList.parse "print").holds "screen" = false := by decide +kernel
  have hany : (MediaList.parse "").holds "screen" = true := by decide +kernel
  have hall : (MediaList.parse "all").holds "screen" = true := by decide +kernel
  have hfirst : Rule.effectiveOf "screen" first.rules = [⟨[divisions], [], .start⟩] := by
    simp [first, inner, Rule.effectiveOf, Rule.effective, hprint, hany, hall]
  have hlength : (first.effectiveRules "screen").length = 1 := by
    rw [heffective, hfirst]
    rfl
  have hlast : (i.sheets.flatMap fun s => Rule.effectiveOf i.medium s.rules)[1]? = some last := by
    simp [i, hfirst, Rule.effectiveOf, Rule.effective]
  have hmatch : i.Selects paragraphs := by
    unfold Selects
    decide +kernel
  obtain ⟨b, ⟨hb, hnumber⟩, -⟩ := hone 1 last hlast ⟨paragraphs, by simp [last], hmatch⟩
  obtain ⟨rule, hrule, -, hgreatest⟩ := hblock b hb
  rw [hnumber, hlast, Option.some.injEq] at hrule
  subst hrule
  have hspecificity : b.specificity = paragraphs.specificity := by
    refine hgreatest.unique ⟨⟨paragraphs, by simp [last], hmatch, rfl⟩, ?_⟩
    rintro k ⟨s, hs, -, rfl⟩
    rcases List.mem_cons.mp hs with rfl | hs
    · decide
    · rw [List.mem_singleton.mp hs]
  exact ⟨hn, hlength, ⟨b, hb, hnumber, hspecificity⟩, horder⟩

end CascadeInputs

end StyleTree
