import StyleTree.Proofs.Page.PseudoClasses
import StyleTree.Proofs.Selector.Relations

/-!
# Disabled elements

An element is disabled by its own attribute, an option also by that of its group, and any element by
a disabled field set around it. The field sets are looked for from the element upwards, and at each
of them the search only knows the child of the field set on the way. That is enough: the element is
in the first legend of the field set exactly if that child is the legend.
-/

namespace StyleTree

namespace Page

variable {p : Page} {n m a f l : NodeId}

/-! ## First legends -/

/-- The element `l` is the first of the children of `f` that is a legend. -/
structure IsFirstLegend (p : Page) (f l : NodeId) : Prop where
  parent : p.tree.parent? l = some f
  kind : p.kind l = .legend
  first : ∀ m ∈ p.tree.preceding l, p.kind m ≠ .legend

theorem find?_legend_iff (h : p.tree.Sound) :
    (p.childElements f).find? (p.kind · = .legend) = some l ↔ p.IsFirstLegend f l := by
  have hall : (p.childElements f).find? (p.kind · = .legend) =
      (p.tree.children f).find? (p.kind · = .legend) := by
    rw [childElements, List.find?_filter]
    congr 1
    funext m
    simp only [decide_eq_true_eq, decide_eq_decide, and_iff_right_iff_imp]
    exact fun hm => isElement_of_kind (hm ▸ by decide)
  rw [hall, List.find?_eq_some_iff_append]
  simp only [decide_eq_true_eq, Bool.not_eq_true', decide_eq_false_iff_not]
  constructor
  · rintro ⟨hl, before, after, hsplit, hbefore⟩
    refine ⟨h.mem_children.mp (by simp [hsplit]), hl, ?_⟩
    rw [(h.siblings hsplit).1]
    simpa using hbefore
  · intro hl
    obtain ⟨before, after, hsplit⟩ := List.append_of_mem (h.mem_children.mpr hl.parent)
    refine ⟨hl.kind, before, after, hsplit, ?_⟩
    have hfirst := hl.first
    rw [(h.siblings hsplit).1] at hfirst
    simpa using hfirst

/-! ## Disabled field sets -/

/-- The disabled field set `f` is around `n`, which is not in the first legend of `f`. -/
structure IsDisablingFieldSet (p : Page) (f n : NodeId) : Prop where
  above : f ∈ p.tree.ancestors n
  kind : p.kind f = .fieldSet
  disabled : p.hasAttr f "disabled" = true
  outside : ∀ l, p.IsFirstLegend f l → p.tree.isInclusiveAncestor l n = false

/-- The parent of an element disables it unless the element is its first legend. -/
theorem isDisablingFieldSet_parent (h : p.tree.Sound) (ha : p.tree.parent? n = some a) :
    p.IsDisablingFieldSet a n ↔
      p.kind a = .fieldSet ∧ p.hasAttr a "disabled" = true ∧ ¬p.IsFirstLegend a n := by
  have hself : p.tree.isInclusiveAncestor n n = true :=
    Tree.Sound.isInclusiveAncestor_iff.mpr ⟨Tree.has_of_parent ha, .inl rfl⟩
  constructor
  · intro hf
    refine ⟨hf.kind, hf.disabled, fun hlegend => ?_⟩
    rw [hf.outside n hlegend] at hself
    cases hself
  · rintro ⟨hkind, hdisabled, hnot⟩
    refine ⟨?_, hkind, hdisabled, fun l hl => ?_⟩
    · rw [h.ancestors_of_child ha]
      exact List.mem_cons_self
    · -- Only one child of `a` leads down to `n`, and that is `n`.
      rw [Bool.eq_false_iff, ne_eq, Tree.Sound.isInclusiveAncestor_iff]
      rintro ⟨-, hln⟩
      obtain rfl := h.child_unique hl.parent ha (hln.imp_left Eq.symm) (.inl rfl)
      exact hnot hl

/-- A field set further up disables the element if it disables the parent. -/
theorem isDisablingFieldSet_above (h : p.tree.Sound) (ha : p.tree.parent? n = some a)
    (hne : f ≠ a) : p.IsDisablingFieldSet f n ↔ p.IsDisablingFieldSet f a := by
  have habove : f ∈ p.tree.ancestors n ↔ f ∈ p.tree.ancestors a := by
    rw [h.ancestors_of_child ha, List.mem_cons, or_iff_right hne]
  have hlegend : ∀ l, p.IsFirstLegend f l →
      p.tree.isInclusiveAncestor l n = p.tree.isInclusiveAncestor l a := by
    intro l hl
    have hln : l ≠ n := by
      rintro rfl
      exact hne (Option.some.inj (hl.parent.symm.trans ha))
    rw [Bool.eq_iff_iff, h.isInclusiveAncestor_of_child ha, or_iff_right hln]
  constructor
  · intro hf
    exact ⟨habove.mp hf.above, hf.kind, hf.disabled, fun l hl => hlegend l hl ▸ hf.outside l hl⟩
  · intro hf
    exact ⟨habove.mpr hf.above, hf.kind, hf.disabled, fun l hl => hlegend l hl ▸ hf.outside l hl⟩

/-- The search upwards finds a field set if there is one. -/
theorem isInDisabledFieldSet_iff (h : p.tree.Valid) (n : NodeId) :
    p.isInDisabledFieldSet n (p.ancestorElements n) = true ↔ ∃ f, p.IsDisablingFieldSet f n := by
  induction h.acyclic n with
  | intro n _ ih =>
    rw [ancestorElements_eq h.toSound]
    cases ha : p.parentElement? n with
    | none =>
      refine iff_of_false Bool.false_ne_true ?_
      rintro ⟨f, hf⟩
      have hmem := (mem_ancestorElements h).mpr ⟨hf.above, isElement_of_kind (hf.kind ▸ by decide)⟩
      rw [ancestorElements_eq h.toSound, ha] at hmem
      cases hmem
    | some a =>
      have hparent := (Option.filter_eq_some_iff.mp ha).1
      have hlegend : (p.childElements a).find? (p.kind · = .legend) = some n ↔
          p.IsFirstLegend a n := find?_legend_iff h.toSound
      rw [Option.elim_some, isInDisabledFieldSet, Bool.or_eq_true, ih a hparent]
      simp only [Bool.and_eq_true, decide_eq_true_eq, bne_iff_ne, ne_eq, hlegend, and_assoc]
      rw [← isDisablingFieldSet_parent h.toSound hparent]
      have habove : ∀ {f}, f ≠ a → (p.IsDisablingFieldSet f n ↔ p.IsDisablingFieldSet f a) :=
        fun hne => isDisablingFieldSet_above h.toSound hparent hne
      constructor
      · rintro (hf | ⟨f, hf⟩)
        · exact ⟨a, hf⟩
        · refine ⟨f, (habove ?_).mpr hf⟩
          rintro rfl
          exact h.toSound.not_mem_ancestors f hf.above
      · rintro ⟨f, hf⟩
        by_cases hfa : f = a
        · exact .inl (hfa ▸ hf)
        · exact .inr ⟨f, (habove hfa).mp hf⟩

/-! ## Disabled elements -/

/-- The element is an option in a disabled group of options. -/
def IsOptionOfDisabledGroup (p : Page) (n : NodeId) : Prop :=
  p.kind n = .option ∧
    ∃ g, p.tree.parent? n = some g ∧ p.kind g = .optGroup ∧ p.hasAttr g "disabled" = true

theorem isDisabled_iff (h : p.tree.Valid) : p.isDisabled n = true ↔
    p.hasAttr n "disabled" = true ∨ p.IsOptionOfDisabledGroup n ∨
      ∃ f, p.IsDisablingFieldSet f n := by
  have hgroup : ((p.parentElement? n).any fun m =>
        p.kind m = .optGroup && p.hasAttr m "disabled") = true ↔
      ∃ g, p.tree.parent? n = some g ∧ p.kind g = .optGroup ∧ p.hasAttr g "disabled" = true := by
    simp only [Option.any_eq_true, parentElement?, Option.filter_eq_some_iff, Bool.and_eq_true,
      decide_eq_true_eq]
    refine exists_congr fun g => ?_
    constructor
    · rintro ⟨⟨hg, -⟩, hkind, hdisabled⟩
      exact ⟨hg, hkind, hdisabled⟩
    · rintro ⟨hg, hkind, hdisabled⟩
      exact ⟨⟨hg, isElement_of_kind (hkind ▸ by decide)⟩, hkind, hdisabled⟩
  rw [isDisabled, Bool.or_eq_true, Bool.or_eq_true, isInDisabledFieldSet_iff h, Bool.and_eq_true,
    hgroup, decide_eq_true_eq, or_assoc]
  rfl

theorem matches_disabled (hn : p.isElement n = true) :
    p.Matches n .disabled ↔ p.isDisabled n = true := by
  rw [matches_iff rfl, and_iff_right hn]
  rfl

theorem matches_enabled (hn : p.isElement n = true) : p.Matches n .enabled ↔
    (p.kind n).isDisableable = true ∧ ¬p.Matches n .disabled := by
  rw [matches_disabled hn, matches_iff rfl, and_iff_right hn]
  show p.isEnabled n = true ↔ _
  rw [isEnabled, Bool.and_eq_true, Bool.not_eq_true', Bool.not_eq_true]

end Page

namespace Document

/-- After any operations, an element is disabled exactly if it has the attribute itself, or is an
option in a group that has it, or some field set above it has it and the element is not in the first
legend of that field set. It is enabled exactly if elements of its kind can be disabled and it is
not. -/
theorem disabled_run (doctype : Option String) (o : Options) (os : List Operation) :
    let p := ((create doctype o).run os).page
    ∀ n, p.isElement n = true →
      (p.Matches n .disabled ↔ p.hasAttr n "disabled" = true ∨ p.IsOptionOfDisabledGroup n ∨
        ∃ f, p.IsDisablingFieldSet f n) ∧
      (p.Matches n .enabled ↔ (p.kind n).isDisableable = true ∧ ¬p.Matches n .disabled) := by
  intro p n hn
  have hvalid : p.tree.Valid := run_valid doctype o os
  exact ⟨(Page.matches_disabled hn).trans (Page.isDisabled_iff hvalid), Page.matches_enabled hn⟩

/-- A disabled field set spares what is in its first legend, and nothing in the second one. Another
disabled field set in the first legend disables what is in it. -/
theorem disabled_run_legends :
    let p := ((create none .default).run [.createElement "fieldset", .createElement "legend",
      .createElement "input", .createElement "legend", .createElement "input",
      .createElement "fieldset", .createElement "input", .setAttribute 1 "disabled" "",
      .setAttribute 6 "disabled" "", .insertBefore Tree.root 1 none, .insertBefore 1 2 none,
      .insertBefore 2 3 none, .insertBefore 1 4 none, .insertBefore 4 5 none,
      .insertBefore 2 6 none, .insertBefore 6 7 none]).page
    p.isElement 3 = true ∧ ¬p.Matches 3 .disabled ∧ p.Matches 3 .enabled ∧
      p.isElement 5 = true ∧ p.IsDisablingFieldSet 1 5 ∧ p.Matches 5 .disabled ∧
      p.isElement 7 = true ∧ p.IsDisablingFieldSet 6 7 ∧ p.Matches 7 .disabled := by
  intro p
  have hall := disabled_run none .default [.createElement "fieldset", .createElement "legend",
    .createElement "input", .createElement "legend", .createElement "input",
    .createElement "fieldset", .createElement "input", .setAttribute 1 "disabled" "",
    .setAttribute 6 "disabled" "", .insertBefore Tree.root 1 none, .insertBefore 1 2 none,
    .insertBefore 2 3 none, .insertBefore 1 4 none, .insertBefore 4 5 none,
    .insertBefore 2 6 none, .insertBefore 6 7 none]
  have h₃ : p.isElement 3 = true := by decide +kernel
  have h₅ : p.isElement 5 = true := by decide +kernel
  have h₇ : p.isElement 7 = true := by decide +kernel
  have hsound : p.tree.Sound := (run_valid none .default _).toSound
  have hfind : (p.childElements 1).find? (p.kind · = .legend) = some 2 := by decide +kernel
  have hfind' : (p.childElements 6).find? (p.kind · = .legend) = none := by decide +kernel
  have hspared : ¬p.Matches 3 .disabled := by
    rw [(hall 3 h₃).1]
    rintro (hattr | hoption | ⟨f, hf⟩)
    · exact absurd hattr (by decide +kernel)
    · exact absurd hoption.1 (by decide +kernel)
    · have hancestors : p.tree.ancestors 3 = [2, 1, 0] := by decide +kernel
      have hmem : f ∈ [2, 1, 0] := hancestors ▸ hf.above
      obtain rfl | rfl | rfl : f = 2 ∨ f = 1 ∨ f = 0 := by simpa using hmem
      · exact absurd hf.kind (by decide +kernel)
      · exact absurd (hf.outside 2 ((Page.find?_legend_iff hsound).mp hfind)) (by decide +kernel)
      · exact absurd hf.kind (by decide +kernel)
  have hset : p.IsDisablingFieldSet 1 5 := by
    refine ⟨by decide +kernel, by decide +kernel, by decide +kernel, fun l hl => ?_⟩
    rw [← Page.find?_legend_iff hsound, hfind] at hl
    obtain rfl := Option.some.inj hl
    decide +kernel
  have hset' : p.IsDisablingFieldSet 6 7 := by
    refine ⟨by decide +kernel, by decide +kernel, by decide +kernel, fun l hl => ?_⟩
    rw [← Page.find?_legend_iff hsound, hfind'] at hl
    cases hl
  have henabled : p.Matches 3 .enabled := (hall 3 h₃).2.mpr ⟨by decide +kernel, hspared⟩
  exact ⟨h₃, hspared, henabled, h₅, hset, (hall 5 h₅).1.mpr (.inr (.inr ⟨1, hset⟩)), h₇, hset',
    (hall 7 h₇).1.mpr (.inr (.inr ⟨6, hset'⟩))⟩

end Document

end StyleTree
