import StyleTree.Proofs.Page.PseudoClasses

/-!
# Groups of radio buttons

A radio button is indeterminate if no button of its group is checked. The group of a button with a
name is looked for in the document, wherever the button is. So a button of the document is in its
own group, and so is one without a name; but a detached button with a name is not, and is
indeterminate while it is checked unless a button of the document shares its name and its owner.
-/

namespace StyleTree

namespace Tree.Valid

variable {t : Tree} (h : t.Valid) {n : NodeId}

include h

/-- A node is connected if the document is the root of its tree. -/
theorem isConnected_iff_top : t.isConnected n = true ↔ t.top n = root := by
  rw [h.toSound.isConnected_iff h.parent_root (has_of_data? h.data_root)]
  constructor
  · exact h.toSound.top_eq_of_mem h.parent_root
  · intro htop
    rw [← htop]
    exact h.toSound.mem_preorder_top n

end Tree.Valid

namespace Page

variable {p : Page} {n m : NodeId} {name : String}

/-! ## Groups -/

/-- The radio button has the name and the owner. -/
structure IsRadioOf (p : Page) (name : String) (owner : Option NodeId) (m : NodeId) : Prop where
  isRadio : p.isRadio m = true
  name : p.attr? m "name" = some name
  owner : p.formOwner? m = owner

/-- The button has no name, or an empty one. -/
def IsNameless (p : Page) (n : NodeId) : Prop :=
  ∀ name, p.attr? n "name" = some name → name = ""

theorem isElement_of_isRadio (hn : p.isRadio n = true) : p.isElement n = true := by
  rw [isRadio, Bool.and_eq_true, decide_eq_true_eq] at hn
  exact isElement_of_kind (hn.1 ▸ by decide)

theorem radioGroup_nameless (hn : p.IsNameless n) : p.radioGroup n = [n] := by
  have hnone : (p.attr? n "name").filter (· != "") = none := by
    rw [Option.filter_eq_none_iff]
    intro name hname
    simp [hn name hname]
  rw [radioGroup, hnone]

/-- The group of a button with a name, wherever the button is. -/
theorem mem_radioGroup (h : p.tree.Valid) (hname : p.attr? n "name" = some name) (hne : name ≠ "") :
    m ∈ p.radioGroup n ↔ p.tree.isConnected m = true ∧ p.IsRadioOf name (p.formOwner? n) m := by
  have hsome : (p.attr? n "name").filter (· != "") = some name := by simp [hname, hne]
  simp only [radioGroup, hsome, List.mem_filter, mem_elements h, Bool.and_eq_true, beq_iff_eq]
  constructor
  · rintro ⟨⟨hconnected, -⟩, ⟨hradio, hm⟩, howner⟩
    exact ⟨hconnected, hradio, hm, howner⟩
  · rintro ⟨hconnected, hradio, hm, howner⟩
    exact ⟨⟨hconnected, isElement_of_isRadio hradio⟩, ⟨hradio, hm⟩, howner⟩

theorem isIndeterminate_iff (hn : p.isRadio n = true) :
    p.isIndeterminate n = true ↔ ∀ m ∈ p.radioGroup n, p.isChecked m = false := by
  rw [isRadio, Bool.and_eq_true, decide_eq_true_eq, decide_eq_true_eq] at hn
  simp [isIndeterminate, hn]

/-- A button that has no name or stands in the document is in its own group. -/
theorem mem_radioGroup_self (h : p.tree.Valid) (hn : p.isRadio n = true)
    (hown : p.IsNameless n ∨ p.tree.isConnected n = true) : n ∈ p.radioGroup n := by
  by_cases hnameless : p.IsNameless n
  · rw [radioGroup_nameless hnameless]
    exact List.mem_singleton_self n
  · have hconnected := hown.resolve_left hnameless
    simp only [IsNameless, not_forall] at hnameless
    obtain ⟨name, hname, hne⟩ := hnameless
    rw [mem_radioGroup h hname hne]
    exact ⟨hconnected, hn, hname, rfl⟩

end Page

namespace Document

/-- After any operations, a radio button without a name is indeterminate exactly if it is not
checked. One with a name is indeterminate exactly if no button of the document with its name and its
owner is checked; if it stands in the document itself, that is its own tree. So a checked button is
not indeterminate, unless it has a name and is detached. -/
theorem indeterminate_run (doctype : Option String) (o : Options) (os : List Operation) :
    let p := ((create doctype o).run os).page
    ∀ n, p.isRadio n = true →
      (p.IsNameless n → (p.Matches n .indeterminate ↔ ¬p.Matches n .checked)) ∧
        (∀ name, p.attr? n "name" = some name → name ≠ "" →
          (p.Matches n .indeterminate ↔ ∀ m, p.tree.isConnected m = true →
            p.IsRadioOf name (p.formOwner? n) m → ¬p.Matches m .checked) ∧
          (p.tree.isConnected n = true → (p.Matches n .indeterminate ↔
            ∀ m, p.tree.top m = p.tree.top n →
              p.IsRadioOf name (p.formOwner? n) m → ¬p.Matches m .checked))) ∧
        (p.IsNameless n ∨ p.tree.isConnected n = true →
          p.Matches n .checked → ¬p.Matches n .indeterminate) := by
  intro p n hn
  have hvalid : p.tree.Valid := run_valid doctype o os
  have hchecked : ∀ {m}, p.isRadio m = true → (¬p.Matches m .checked ↔ p.isChecked m = false) := by
    intro m hm
    rw [Page.matches_iff rfl, Page.isElement_of_isRadio hm]
    simp [PseudoClass.holds]
  have hindeterminate : p.Matches n .indeterminate ↔
      ∀ m ∈ p.radioGroup n, p.isChecked m = false := by
    rw [Page.matches_iff rfl, Page.isElement_of_isRadio hn, ← Page.isIndeterminate_iff hn]
    simp [PseudoClass.holds]
  refine ⟨?_, ?_, ?_⟩
  · intro hnameless
    rw [hindeterminate, Page.radioGroup_nameless hnameless, hchecked hn]
    simp
  · intro name hname hne
    have hgroup : p.Matches n .indeterminate ↔ ∀ m, p.tree.isConnected m = true →
        p.IsRadioOf name (p.formOwner? n) m → ¬p.Matches m .checked := by
      rw [hindeterminate]
      refine forall_congr' fun m => ?_
      rw [Page.mem_radioGroup hvalid hname hne, and_imp]
      exact forall₂_congr fun _ hm => (hchecked hm.isRadio).symm
    refine ⟨hgroup, ?_⟩
    intro hconnected
    rw [hgroup, hvalid.isConnected_iff_top.mp hconnected]
    simp only [hvalid.isConnected_iff_top]
  · intro hown hcheck hmatch
    have hself := Page.mem_radioGroup_self hvalid hn hown
    exact (hchecked hn).mpr (hindeterminate.mp hmatch n hself) hcheck

/-- Two checked buttons of one name. That of a form is not indeterminate. The detached one is, since
no other button without a form has its name. -/
theorem indeterminate_run_form :
    let p := ((create none .default).run [.createElement "form", .createElement "input",
      .setAttribute 2 "type" "radio", .setAttribute 2 "name" "a", .setAttribute 2 "checked" "",
      .createElement "input", .setAttribute 3 "type" "radio", .setAttribute 3 "name" "a",
      .setAttribute 3 "checked" "", .insertBefore Tree.root 1 none, .insertBefore 1 2 none]).page
    p.isRadio 2 = true ∧ p.tree.isConnected 2 = true ∧ p.Matches 2 .checked ∧
      ¬p.Matches 2 .indeterminate ∧ p.isRadio 3 = true ∧ p.tree.isConnected 3 = false ∧
      p.Matches 3 .checked ∧ p.Matches 3 .indeterminate := by
  intro p
  have hall := indeterminate_run none .default [.createElement "form", .createElement "input",
    .setAttribute 2 "type" "radio", .setAttribute 2 "name" "a", .setAttribute 2 "checked" "",
    .createElement "input", .setAttribute 3 "type" "radio", .setAttribute 3 "name" "a",
    .setAttribute 3 "checked" "", .insertBefore Tree.root 1 none, .insertBefore 1 2 none]
  have h₂ : p.isRadio 2 = true := by decide +kernel
  have h₃ : p.isRadio 3 = true := by decide +kernel
  have hconnected : p.tree.isConnected 2 = true := by decide +kernel
  have hchecked₂ : p.Matches 2 .checked := (Page.matches_iff rfl).mpr (by decide +kernel)
  have hchecked₃ : p.Matches 3 .checked := (Page.matches_iff rfl).mpr (by decide +kernel)
  have hindeterminate := (hall 2 h₂).2.2 (.inr hconnected) hchecked₂
  have hdetached : p.Matches 3 .indeterminate := by
    rw [((hall 3 h₃).2.1 "a" (by decide +kernel) (by decide)).1]
    intro m hm hgroup
    -- The only other button has the form for its owner.
    have helements : p.elements = [1, 2] := by decide +kernel
    have hmem := (Page.mem_elements (run_valid none .default _)).mpr
      ⟨hm, Page.isElement_of_isRadio hgroup.isRadio⟩
    rw [helements, List.mem_pair] at hmem
    rcases hmem with rfl | rfl
    · exact absurd hgroup.isRadio (by decide +kernel)
    · exact absurd hgroup.owner (by decide +kernel)
  exact ⟨h₂, hconnected, hchecked₂, hindeterminate, h₃, by decide +kernel, hchecked₃, hdetached⟩

/-- A detached button with a name is not in the group that is looked for. -/
theorem indeterminate_detached :
    let p := ((create none .default).run [.createElement "input", .setAttribute 1 "type" "radio",
      .setAttribute 1 "name" "a", .setAttribute 1 "checked" ""]).page
    ¬∀ n, p.isRadio n = true → p.Matches n .checked → ¬p.Matches n .indeterminate := by
  intro p hnever
  have hchecked : p.Matches 1 .checked := (Page.matches_iff rfl).mpr (by decide)
  have hindeterminate : p.Matches 1 .indeterminate := (Page.matches_iff rfl).mpr (by decide)
  exact hnever 1 (by decide) hchecked hindeterminate

end Document

end StyleTree
