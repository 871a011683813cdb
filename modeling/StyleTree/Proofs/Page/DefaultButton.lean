import StyleTree.Proofs.Page.Disabled

/-!
# Default buttons

Each submit button decides for itself whether it is the default one, by looking through the document
for the first submit button of its owner that is not disabled. Since all buttons of one owner look
for the same one, no two of them decide that they are it, and one of them does if there is any that
is not disabled.
-/

namespace StyleTree

namespace Page

variable {p : Page} {n m : NodeId} {owner : Option NodeId}

/-- The element is a submit button of the document that belongs to the form, or to none. -/
structure IsSubmitButtonOf (p : Page) (owner : Option NodeId) (n : NodeId) : Prop where
  isConnected : p.tree.isConnected n = true
  isSubmitButton : p.isSubmitButton n = true
  owner : p.formOwner? n = owner

theorem kind_of_isSubmitButton (hn : p.isSubmitButton n = true) :
    p.kind n = .input ∨ p.kind n = .button := by
  rw [isSubmitButton] at hn
  split at hn
  · exact .inl ‹_›
  · exact .inr ‹_›
  · cases hn

theorem isElement_of_isSubmitButton (hn : p.isSubmitButton n = true) : p.isElement n = true := by
  rcases kind_of_isSubmitButton hn with hkind | hkind
  · exact isElement_of_kind (hkind ▸ by decide)
  · exact isElement_of_kind (hkind ▸ by decide)

/-- A submit button is no check box and no radio button, so it is the default button or nothing. -/
theorem isDefault_of_isSubmitButton (hn : p.isSubmitButton n = true) :
    p.isDefault n = p.isDefaultButton n := by
  rcases kind_of_isSubmitButton hn with hkind | hkind
  · have hcheckable : p.isCheckable n = false := by
      simp only [isSubmitButton, hkind, Bool.or_eq_true, decide_eq_true_eq] at hn
      rcases hn with htype | htype <;> simp [isCheckable, htype]
    simp [isDefault, hkind, hcheckable]
  · simp [isDefault, hkind]

theorem matches_default (hn : p.isSubmitButton n = true) :
    p.Matches n .default ↔ p.isDefaultButton n = true := by
  rw [matches_iff rfl, and_iff_right (isElement_of_isSubmitButton hn),
    ← isDefault_of_isSubmitButton hn]
  rfl

/-- The submit buttons of the owner that are not disabled, in tree order. -/
def submitButtons (p : Page) (owner : Option NodeId) : List NodeId :=
  p.elements.filter (p.canSubmit owner)

theorem mem_submitButtons (h : p.tree.Valid) :
    n ∈ p.submitButtons owner ↔ p.IsSubmitButtonOf owner n ∧ ¬p.Matches n .disabled := by
  simp only [submitButtons, List.mem_filter, mem_elements h, canSubmit, Bool.and_eq_true,
    Bool.not_eq_true', beq_iff_eq]
  constructor
  · rintro ⟨⟨hconnected, helement⟩, ⟨hbutton, hdisabled⟩, howner⟩
    refine ⟨⟨hconnected, hbutton, howner⟩, ?_⟩
    rw [matches_disabled helement, hdisabled]
    exact Bool.false_ne_true
  · rintro ⟨⟨hconnected, hbutton, howner⟩, hdisabled⟩
    have helement := isElement_of_isSubmitButton hbutton
    rw [matches_disabled helement, Bool.not_eq_true] at hdisabled
    exact ⟨⟨hconnected, helement⟩, ⟨hbutton, hdisabled⟩, howner⟩

/-- All buttons of one owner look for the first button of one list. -/
theorem matches_default_iff_head? (hn : p.isSubmitButton n = true)
    (howner : p.formOwner? n = owner) :
    p.Matches n .default ↔ (p.submitButtons owner).head? = some n := by
  rw [matches_default hn, isDefaultButton, howner, submitButtons, List.head?_filter,
    Bool.and_eq_true, beq_iff_eq, and_iff_right_iff_imp]
  intro hfind
  have hsubmit := List.find?_some hfind
  rw [canSubmit, Bool.and_eq_true] at hsubmit
  exact hsubmit.1

theorem pairwise_submitButtons (h : p.tree.Valid) (owner : Option NodeId) :
    (p.submitButtons owner).Pairwise fun a b => p.tree.compare a b = .lt :=
  (pairwise_elements h).sublist List.filter_sublist

end Page

namespace Document

/-- After any operations, the default one among the submit buttons of the document that belong to
one form, or to none, is the first that is not disabled: no two of them are default ones, and there
is one exactly if some button is not disabled. No submit button outside the document is a default
one. -/
theorem defaultButton_run (doctype : Option String) (o : Options) (os : List Operation) :
    let p := ((create doctype o).run os).page
    (∀ owner : Option NodeId,
      (∀ n m, p.IsSubmitButtonOf owner n → p.IsSubmitButtonOf owner m →
        p.Matches n .default → p.Matches m .default → n = m) ∧
      ((∃ n, p.IsSubmitButtonOf owner n ∧ p.Matches n .default) ↔
        ∃ n, p.IsSubmitButtonOf owner n ∧ ¬p.Matches n .disabled) ∧
      ∀ n, p.IsSubmitButtonOf owner n → (p.Matches n .default ↔ ¬p.Matches n .disabled ∧
        ∀ m, p.IsSubmitButtonOf owner m → ¬p.Matches m .disabled → m ≠ n →
          p.tree.compare n m = .lt)) ∧
    ∀ n, p.isSubmitButton n = true → p.tree.isConnected n = false → ¬p.Matches n .default := by
  intro p
  have hvalid : p.tree.Valid := run_valid doctype o os
  have hhead : ∀ {owner n}, p.IsSubmitButtonOf owner n →
      (p.Matches n .default ↔ (p.submitButtons owner).head? = some n) :=
    fun hn => Page.matches_default_iff_head? hn.isSubmitButton hn.owner
  refine ⟨fun owner => ⟨?_, ?_, ?_⟩, ?_⟩
  · intro n m hn hm hdefault hdefault'
    rw [hhead hn] at hdefault
    rw [hhead hm, hdefault] at hdefault'
    exact Option.some.inj hdefault'
  · constructor
    · rintro ⟨n, hn, hdefault⟩
      have hmem := List.mem_of_head? ((hhead hn).mp hdefault)
      exact ⟨n, (Page.mem_submitButtons hvalid).mp hmem⟩
    · rintro ⟨n, hn⟩
      obtain ⟨m, rest, hlist⟩ :=
        List.exists_cons_of_ne_nil (List.ne_nil_of_mem ((Page.mem_submitButtons hvalid).mpr hn))
      have hm := (Page.mem_submitButtons hvalid).mp (hlist ▸ List.mem_cons_self)
      refine ⟨m, hm.1, (hhead hm.1).mpr ?_⟩
      rw [hlist]
      rfl
  · intro n hn
    rw [hhead hn, head?_eq_some_iff_of_pairwise hvalid.toSound.compare_asymm
      (Page.pairwise_submitButtons hvalid owner), Page.mem_submitButtons hvalid, and_iff_right hn]
    simp only [Page.mem_submitButtons hvalid, and_imp]
  · intro n hn hdetached hdefault
    have hmem := List.mem_of_head? ((Page.matches_default_iff_head? hn rfl).mp hdefault)
    rw [((Page.mem_submitButtons hvalid).mp hmem).1.isConnected] at hdetached
    cases hdetached

/-- The default button of a form may stand before the form, which it names. The next button of the
form is disabled, and the one after it not the first. A button of no form is a default one beside
it, but none that is detached. -/
theorem defaultButton_run_form :
    let p := ((create none .default).run [.createElement "div", .createElement "form",
      .createElement "button", .createElement "input", .createElement "input",
      .createElement "button", .createElement "button", .setAttribute 2 "id" "f",
      .setAttribute 3 "disabled" "", .setAttribute 4 "type" "submit",
      .setAttribute 5 "type" "image", .setAttribute 5 "form" "f", .insertBefore Tree.root 1 none,
      .insertBefore 1 5 none, .insertBefore 1 2 none, .insertBefore 2 3 none,
      .insertBefore 2 4 none, .insertBefore 1 6 none]).page
    p.IsSubmitButtonOf (some 2) 5 ∧ p.Matches 5 .default ∧
      p.IsSubmitButtonOf (some 2) 3 ∧ p.Matches 3 .disabled ∧ ¬p.Matches 3 .default ∧
      p.IsSubmitButtonOf (some 2) 4 ∧ ¬p.Matches 4 .disabled ∧ ¬p.Matches 4 .default ∧
      p.tree.compare 5 4 = .lt ∧ p.IsSubmitButtonOf none 6 ∧ p.Matches 6 .default ∧
      p.isSubmitButton 7 = true ∧ p.tree.isConnected 7 = false ∧ ¬p.Matches 7 .default := by
  intro p
  obtain ⟨hall, hdetached⟩ := defaultButton_run none .default [.createElement "div",
    .createElement "form", .createElement "button", .createElement "input", .createElement "input",
    .createElement "button", .createElement "button", .setAttribute 2 "id" "f",
    .setAttribute 3 "disabled" "", .setAttribute 4 "type" "submit",
    .setAttribute 5 "type" "image", .setAttribute 5 "form" "f", .insertBefore Tree.root 1 none,
    .insertBefore 1 5 none, .insertBefore 1 2 none, .insertBefore 2 3 none,
    .insertBefore 2 4 none, .insertBefore 1 6 none]
  obtain ⟨hunique, -, hfirst⟩ := hall (some 2)
  have h₅ : p.IsSubmitButtonOf (some 2) 5 := by constructor <;> decide +kernel
  have h₃ : p.IsSubmitButtonOf (some 2) 3 := by constructor <;> decide +kernel
  have h₄ : p.IsSubmitButtonOf (some 2) 4 := by constructor <;> decide +kernel
  have h₆ : p.IsSubmitButtonOf none 6 := by constructor <;> decide +kernel
  have h₇ : p.isSubmitButton 7 = true := by decide +kernel
  have houtside : p.tree.isConnected 7 = false := by decide +kernel
  have hdefault : p.Matches 5 .default :=
    (Page.matches_default h₅.isSubmitButton).mpr (by decide +kernel)
  have hdefault' : p.Matches 6 .default :=
    (Page.matches_default h₆.isSubmitButton).mpr (by decide +kernel)
  have hdisabled : p.Matches 3 .disabled :=
    (Page.matches_disabled (by decide +kernel)).mpr (by decide +kernel)
  have henabled : ¬p.Matches 4 .disabled := by
    rw [Page.matches_disabled (by decide +kernel)]
    decide +kernel
  have hlt := ((hfirst 5 h₅).mp hdefault).2 4 h₄ henabled (by decide)
  have hnot : ¬p.Matches 4 .default := fun h => absurd (hunique 5 4 h₅ h₄ hdefault h) (by decide)
  exact ⟨h₅, hdefault, h₃, hdisabled, fun h => ((hfirst 3 h₃).mp h).1 hdisabled, h₄, henabled, hnot,
    hlt, h₆, hdefault', h₇, houtside, hdetached 7 h₇ houtside⟩

end Document

end StyleTree
