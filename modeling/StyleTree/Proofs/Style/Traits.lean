import StyleTree.Page.Attributes
import StyleTree.Page.Direction
import StyleTree.Page.Hints
import StyleTree.Page.Structure
import StyleTree.Proofs.Style.Elements

/-!
# What holds of an element

On pages with the same elements, the same holds of each: its language and its direction, its place
and its contents, and what it is as a form control. Each fact is decided by the element, by the
elements around it and by what is below it.
-/

namespace StyleTree

namespace Page

/-! ## Lists of elements -/

theorem any_congr {f g : NodeId → Bool} {l : List NodeId} (h : ∀ m ∈ l, f m = g m) :
    l.any f = l.any g := by
  induction l with
  | nil => rfl
  | cons m l ih =>
    rw [List.any_cons, List.any_cons, h m List.mem_cons_self]
    rw [ih fun k hk => h k (List.mem_cons_of_mem m hk)]

theorem findSome?_congr {β : Type} {f g : NodeId → Option β} {l : List NodeId}
    (h : ∀ m ∈ l, f m = g m) : l.findSome? f = l.findSome? g := by
  rw [← List.head?_filterMap, ← List.head?_filterMap, List.filterMap_congr h]

/-! ## The focus -/

theorem isElement_of_hasState {p : Page} {n : NodeId} {f : StateFlag}
    (hn : p.hasState n f = true) : p.isElement n = true := by
  unfold hasState at hn
  cases he : p.element? n with
  | none => rw [he] at hn; cases hn
  | some e => exact Option.isSome_iff_exists.mpr ⟨e, he⟩

theorem hasFocusWithin_iff {p : Page} {n : NodeId} : p.hasFocusWithin n = true ↔
    ∃ m, p.hasState m .focus = true ∧ p.tree.isInclusiveAncestor n m = true := by
  unfold hasFocusWithin
  rw [List.any_eq_true]
  refine exists_congr fun m => ?_
  rw [List.mem_range, Bool.and_eq_true]
  refine and_iff_right_of_imp fun hm => ?_
  simpa [Tree.has] using has_of_isElement (isElement_of_hasState hm.1)

namespace SameElements

variable {p q : Page} {n : NodeId} (h : SameElements p q)

include h

/-- The nearest of an element and the elements above it of which something is known. -/
theorem findSome?_above {β : Type} {f g : NodeId → Option β} (hn : p.isElement n = true)
    (hfg : ∀ m, p.isElement m = true → f m = g m) :
    (n :: q.ancestorElements n).findSome? f = (n :: p.ancestorElements n).findSome? g := by
  rw [h.ancestorElements hn]
  refine findSome?_congr fun m hm => hfg m ?_
  rcases List.mem_cons.mp hm with rfl | hm
  · exact hn
  · exact isElement_of_mem_ancestorElements hm

omit h in
theorem isElement_of_mem_elements {m : NodeId} (hm : m ∈ p.elements) : p.isElement m = true :=
  List.of_mem_filter hm

section Element

variable (hn : p.isElement n = true)

include hn

/-! ## Attributes -/

theorem passesAttributeTest (t : AttributeTest) :
    q.passesAttributeTest n t = p.passesAttributeTest n t := by
  unfold Page.passesAttributeTest
  rw [h.element? hn, h.isHtmlElement hn, h.mode]

theorem hasId (name : String) : q.hasId n name = p.hasId n name := by
  rw [Page.hasId, Page.hasId, h.id? hn, h.mode]

theorem hasClass (caseless : Bool) (name : String) :
    q.hasClass n caseless name = p.hasClass n caseless name := by
  rw [Page.hasClass, Page.hasClass, h.attr? hn, h.mode]

theorem ownLanguage? : q.ownLanguage? n = p.ownLanguage? n := by
  rw [Page.ownLanguage?, Page.ownLanguage?, h.element? hn]

theorem matchesLanguage (ranges : List String) :
    q.matchesLanguage n ranges = p.matchesLanguage n ranges := by
  unfold Page.matchesLanguage Page.language
  rw [h.findSome?_above hn fun m => h.ownLanguage?]

/-! ## Contents -/

theorem data_child {c : NodeId} (hc : c ∈ p.tree.children n) :
    q.tree.data? c = p.tree.data? c :=
  h.data (h.valid.mem_children.mp hc) (ne_root_of_isElement h.valid hn)

theorem allText (f : String → Bool) : q.allText n f = p.allText n f := by
  unfold Page.allText
  rw [h.children (ne_root_of_isElement h.valid hn), Bool.eq_iff_iff, List.all_eq_true,
    List.all_eq_true]
  refine forall₂_congr fun c hc => ?_
  rw [h.data_child hn hc]

theorem childText : q.tree.childText n = p.tree.childText n := by
  refine Tree.childText_congr (h.children (ne_root_of_isElement h.valid hn)) fun c hc => ?_
  rw [h.data_child hn hc]

theorem isTarget : q.isTarget n = p.isTarget n := by
  rw [Page.isTarget, Page.isTarget, h.id? hn, h.url]

/-- Nodes that only `q` has are roots, so they are not in an element of `p`. -/
theorem hasFocusWithin : q.hasFocusWithin n = p.hasFocusWithin n := by
  rw [Bool.eq_iff_iff, hasFocusWithin_iff, hasFocusWithin_iff]
  refine exists_congr fun m => ?_
  by_cases hm : p.tree.has m = true
  · rw [Page.hasState, Page.hasState, h.element_of_has hm]
    refine and_congr_right fun hfocus => ?_
    have helement : p.isElement m = true := isElement_of_hasState hfocus
    rw [Tree.Sound.isInclusiveAncestor_iff, Tree.Sound.isInclusiveAncestor_iff,
      h.ancestors helement]
    exact and_congr_left fun _ => iff_of_true (has_of_isElement (h.isElement helement)) hm
  · have hroot := h.parent_of_new (Bool.not_eq_true _ ▸ hm)
    refine iff_of_false ?_ ?_
    · rintro ⟨-, habove⟩
      rw [Tree.Sound.isInclusiveAncestor_iff, h.valid'.ancestors_of_root hroot] at habove
      rcases habove.2 with rfl | habove
      · exact hm (has_of_isElement hn)
      · cases habove
    · rintro ⟨hfocus, -⟩
      exact hm (has_of_isElement (isElement_of_hasState hfocus))

/-! ## Form controls -/

theorem inputType : q.inputType n = p.inputType n := by
  rw [Page.inputType, Page.inputType, h.attr? hn]

theorem value : q.value n = p.value n := by
  rw [Page.value, Page.value, h.kind hn, h.childText hn, h.attr? hn]

theorem formOwner? : q.formOwner? n = p.formOwner? n := by
  have hnamed : ∀ id, (q.elementById? id).filter (q.kind · = .form) =
      (p.elementById? id).filter (p.kind · = .form) := by
    intro id
    have hfound : q.elementById? id = p.elementById? id := by
      unfold Page.elementById?
      rw [h.elements]
      split
      · rfl
      · exact List.find?_congr fun m hm => by rw [h.id? (isElement_of_mem_elements hm)]
    rw [hfound]
    cases hm : p.elementById? id with
    | none => rfl
    | some m =>
      have hm : p.isElement m = true := by
        unfold Page.elementById? at hm
        split at hm
        · cases hm
        · exact isElement_of_mem_elements (List.mem_of_find?_eq_some hm)
      rw [Option.filter_some, Option.filter_some, h.kind hm]
  have habove : (q.ancestorElements n).find? (q.kind · = .form) =
      (p.ancestorElements n).find? (p.kind · = .form) := by
    rw [h.ancestorElements hn]
    exact List.find?_congr fun m hm => by rw [h.kind (isElement_of_mem_ancestorElements hm)]
  unfold Page.formOwner?
  rw [h.kind hn, h.attr? hn, habove]
  split
  · exact hnamed _
  · rfl

end Element

theorem isInDisabledFieldSet {l : List NodeId} (hl : ∀ m ∈ l, p.isElement m = true)
    (child : NodeId) : q.isInDisabledFieldSet child l = p.isInDisabledFieldSet child l := by
  induction l generalizing child with
  | nil => rfl
  | cons a rest ih =>
    have ha := hl a List.mem_cons_self
    have hlegend : (q.childElements a).find? (q.kind · = .legend) =
        (p.childElements a).find? (p.kind · = .legend) := by
      rw [h.childElements (.inr ha)]
      exact List.find?_congr fun m hm => by rw [h.kind (List.of_mem_filter hm)]
    rw [Page.isInDisabledFieldSet, Page.isInDisabledFieldSet, h.kind ha, h.hasAttr ha, hlegend,
      ih fun m hm => hl m (List.mem_cons_of_mem a hm)]

section Element

variable (hn : p.isElement n = true)

include hn

theorem isDisabled : q.isDisabled n = p.isDisabled n := by
  have hgroup : ((q.parentElement? n).any fun m => q.kind m = .optGroup && q.hasAttr m "disabled") =
      (p.parentElement? n).any fun m => p.kind m = .optGroup && p.hasAttr m "disabled" := by
    rw [h.parentElement? hn]
    cases hm : p.parentElement? n with
    | none => rfl
    | some m =>
      have hm := isElement_of_parentElement? hm
      rw [Option.any_some, Option.any_some, h.kind hm, h.hasAttr hm]
  unfold Page.isDisabled
  rw [h.hasAttr hn, h.kind hn, hgroup, h.ancestorElements hn,
    h.isInDisabledFieldSet fun _ => isElement_of_mem_ancestorElements]

theorem isEnabled : q.isEnabled n = p.isEnabled n := by
  rw [Page.isEnabled, Page.isEnabled, h.kind hn, h.isDisabled hn]

theorem isReadWrite : q.isReadWrite n = p.isReadWrite n := by
  have heditable : q.isEditable n = p.isEditable n := by
    unfold Page.isEditable
    rw [h.findSome?_above hn fun m hm => by rw [h.attr? hm]]
  unfold Page.isReadWrite
  rw [h.hasAttr hn, h.isDisabled hn, h.kind hn, h.inputType hn, heditable]

theorem showsPlaceholder : q.showsPlaceholder n = p.showsPlaceholder n := by
  unfold Page.showsPlaceholder
  rw [h.kind hn, h.inputType hn, h.hasAttr hn, h.value hn]

theorem isCheckable : q.isCheckable n = p.isCheckable n := by
  rw [Page.isCheckable, Page.isCheckable, h.kind hn, h.inputType hn]

theorem isChecked : q.isChecked n = p.isChecked n := by
  unfold Page.isChecked
  rw [h.isCheckable hn, h.hasAttr hn, h.hasAttr hn, h.hasState hn, h.kind hn]

theorem radioGroup : q.radioGroup n = p.radioGroup n := by
  unfold Page.radioGroup
  rw [h.attr? hn, h.elements]
  split
  · refine List.filter_congr fun m hm => ?_
    have hm := isElement_of_mem_elements hm
    rw [Page.isRadio, Page.isRadio, h.kind hm, h.inputType hm, h.attr? hm, h.formOwner? hm,
      h.formOwner? hn]
  · rfl

theorem isIndeterminate : q.isIndeterminate n = p.isIndeterminate n := by
  have hgroup : (q.radioGroup n).any q.isChecked = (p.radioGroup n).any p.isChecked := by
    rw [h.radioGroup hn]
    refine any_congr fun m hm => h.isChecked ?_
    unfold Page.radioGroup at hm
    split at hm
    · exact isElement_of_mem_elements (List.mem_of_mem_filter hm)
    · rw [List.mem_singleton.mp hm, hn]
  unfold Page.isIndeterminate
  rw [h.kind hn, h.inputType hn, h.hasState hn, hgroup, h.attr? hn]

theorem isSubmitButton : q.isSubmitButton n = p.isSubmitButton n := by
  rw [Page.isSubmitButton, Page.isSubmitButton, h.kind hn, h.inputType hn, h.attr? hn]

theorem isDefaultButton : q.isDefaultButton n = p.isDefaultButton n := by
  have hfirst : q.elements.find? (q.canSubmit (q.formOwner? n)) =
      p.elements.find? (p.canSubmit (p.formOwner? n)) := by
    rw [h.elements, h.formOwner? hn]
    refine List.find?_congr fun m hm => ?_
    have hm := isElement_of_mem_elements hm
    rw [Page.canSubmit, Page.canSubmit, h.isSubmitButton hm, h.isDisabled hm, h.formOwner? hm]
  rw [Page.isDefaultButton, Page.isDefaultButton, h.isSubmitButton hn, h.isDisabled hn, hfirst]

theorem isDefault : q.isDefault n = p.isDefault n := by
  unfold Page.isDefault
  rw [h.kind hn, h.isCheckable hn, h.hasAttr hn, h.hasAttr hn, h.isDefaultButton hn]

theorem canBeRequired : q.canBeRequired n = p.canBeRequired n := by
  rw [Page.canBeRequired, Page.canBeRequired, h.kind hn, h.inputType hn]

theorem isRequired : q.isRequired n = p.isRequired n := by
  rw [Page.isRequired, Page.isRequired, h.canBeRequired hn, h.hasAttr hn]

theorem isOptional : q.isOptional n = p.isOptional n := by
  rw [Page.isOptional, Page.isOptional, h.canBeRequired hn, h.hasAttr hn]

theorem isLink : q.isLink n = p.isLink n := by
  rw [Page.isLink, Page.isLink, h.kind hn, h.element? hn]

/-! ## Hints -/

theorem hints : q.hints n = p.hints n := by
  have hhidden : q.hiddenHints n = p.hiddenHints n := by
    rw [Page.hiddenHints, Page.hiddenHints, h.hasAttr hn]
  have hdimension : q.dimensionHints n = p.dimensionHints n := by
    unfold Page.dimensionHints
    refine List.filterMap_congr fun name _ => ?_
    rw [h.attr? hn]
  have hbackground : q.backgroundHints n = p.backgroundHints n := by
    rw [Page.backgroundHints, Page.backgroundHints, h.attr? hn]
  have halign : q.alignHints n = p.alignHints n := by
    rw [Page.alignHints, Page.alignHints, h.attr? hn]
  have hfont : q.fontHints n = p.fontHints n := by
    unfold Page.fontHints
    refine List.filterMap_congr fun (name, property) _ => ?_
    show (q.attr? n name).map _ = (p.attr? n name).map _
    rw [h.attr? hn]
  unfold Page.hints
  rw [hhidden, h.kind hn, hdimension, hbackground, halign, hfont]

/-! ## Direction -/

theorem dirKeyword? : q.dirKeyword? n = p.dirKeyword? n := by
  rw [Page.dirKeyword?, Page.dirKeyword?, h.attr? hn]

/-- What is in the element is the same, and so is what sees to its own direction there. -/
theorem contentDirection? : q.contentDirection? n = p.contentDirection? n := by
  have hne := ne_root_of_isElement h.valid hn
  have hisolates : ∀ m ∈ p.tree.preorder n, q.isolatesDirection m = p.isolatesDirection m := by
    intro m hm
    have hm := h.valid.has_of_mem_preorder (has_of_isElement hn) hm
    simp only [Page.isolatesDirection, Page.dirKeyword?, Page.kind, Page.attr?,
      h.element_of_has hm]
  have hnodes : q.tree.pruned (fun m => m != n && q.isolatesDirection m) n =
      p.tree.pruned (fun m => m != n && p.isolatesDirection m) n := by
    refine h.valid.pruned_congr h.valid'.toSound (fun m hm => ?_) fun m hm => ?_
    · exact h.children (h.ne_root_of_mem_preorder hne hm)
    · rw [hisolates m hm]
  unfold Page.contentDirection?
  rw [hnodes]
  refine findSome?_congr fun m hm => ?_
  obtain ⟨a, ha, hparent⟩ := h.valid.parent_of_mem_tail hm
  rw [h.data hparent (h.ne_root_of_mem_preorder hne ha)]

theorem ownDirection? : q.ownDirection? n = p.ownDirection? n := by
  have hauto : q.autoDirection n = p.autoDirection n := by
    unfold Page.autoDirection Page.hasTypedText
    rw [h.kind hn, h.inputType hn, h.value hn, h.contentDirection? hn]
  unfold Page.ownDirection?
  rw [h.dirKeyword? hn, hauto, h.kind hn, h.inputType hn]

theorem direction : q.direction n = p.direction n := by
  unfold Page.direction
  rw [h.findSome?_above hn fun m => h.ownDirection?]

end Element

end SameElements

end Page

end StyleTree
