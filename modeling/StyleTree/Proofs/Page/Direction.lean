import StyleTree.Page.Direction
import StyleTree.Proofs.Document.Traversal
import StyleTree.Proofs.Page.PseudoClasses
import StyleTree.Proofs.Selector.Relations

/-!
# Direction of elements

An element that does not decide its direction has that of its parent, so the direction is decided by
the nearest element upwards that does decide. One that goes by its contents has the direction of the
text that its traversal comes to: the traversal leaves out what is below elements that see to their
own direction, and never the element at which it starts.
-/

namespace StyleTree

namespace TextDirection

/-- The first text with a direction gives the direction of all of them. -/
theorem ofText?_join (texts : List String) :
    ofText? (String.join texts) = texts.findSome? ofText? := by
  induction texts with
  | nil => rfl
  | cons s rest ih =>
    have hrest : (String.join rest).toList = rest.flatMap String.toList := String.toList_join
    rw [ofText?, String.toList_join, List.flatMap_cons, List.findSome?_append, List.findSome?_cons,
      ← ih, ofText?, ofText?, hrest]
    cases s.toList.findSome? ofChar? <;> rfl

end TextDirection

namespace Page

variable {p : Page} {n a b d : NodeId}

/-! ## Who decides -/

/-- The element decides its direction itself: by a keyword, as an isolated text, or as an input for
telephone numbers. -/
def DecidesDirection (p : Page) (n : NodeId) : Prop :=
  (∃ k, p.dirKeyword? n = some k) ∨ p.kind n = .bdi ∨ p.kind n = .input ∧ p.inputType n = .tel

theorem ownDirection?_eq_none_iff : p.ownDirection? n = none ↔ ¬p.DecidesDirection n := by
  unfold ownDirection? DecidesDirection
  cases hkeyword : p.dirKeyword? n with
  | some k => cases k <;> simp
  | none => cases p.kind n <;> simp

theorem isElement_of_decidesDirection (hn : p.DecidesDirection n) : p.isElement n = true := by
  rcases hn with ⟨k, hk⟩ | hkind | ⟨hkind, -⟩
  · obtain ⟨value, hvalue, -⟩ := Option.bind_eq_some_iff.mp hk
    obtain ⟨e, he, -⟩ := Option.bind_eq_some_iff.mp hvalue
    exact Option.isSome_iff_exists.mpr ⟨e, he⟩
  · exact isElement_of_kind (hkind ▸ by decide)
  · exact isElement_of_kind (hkind ▸ by decide)

/-- The nearest of `n` and the nodes above it that decides its direction is `a`. -/
structure IsDirectionSource (p : Page) (a n : NodeId) : Prop where
  above : p.tree.isInclusiveAncestor a n = true
  decides : p.DecidesDirection a
  nearest : ∀ b, p.tree.isInclusiveAncestor b n = true → a ∈ p.tree.ancestors b →
    ¬p.DecidesDirection b

theorem isDirectionSource_self (h : p.tree.Sound) (hn : p.DecidesDirection n) :
    p.IsDirectionSource n n where
  above := Tree.Sound.isInclusiveAncestor_iff.mpr
    ⟨has_of_isElement (isElement_of_decidesDirection hn), .inl rfl⟩
  decides := hn
  nearest := by
    intro b hb hnb
    rcases (Tree.Sound.isInclusiveAncestor_iff.mp hb).2 with rfl | hbn
    · exact absurd hnb (h.not_mem_ancestors b)
    · exact absurd (h.ancestors_subset hbn hnb) (h.not_mem_ancestors n)

/-- What decides for the parent decides for a child that does not decide itself. -/
theorem IsDirectionSource.of_parent (h : p.tree.Sound) (ha : p.tree.parent? n = some a)
    (hn : ¬p.DecidesDirection n) (hb : p.IsDirectionSource b a) : p.IsDirectionSource b n where
  above := (h.isInclusiveAncestor_of_child ha).mpr (.inr hb.above)
  decides := hb.decides
  nearest := by
    intro c hc hbc
    rcases (h.isInclusiveAncestor_of_child ha).mp hc with rfl | hc
    · exact hn
    · exact hb.nearest c hc hbc

/-- The direction goes from parent to child. -/
theorem direction_eq (h : p.tree.Sound) (n : NodeId) : p.direction n =
    (p.ownDirection? n).getD ((p.parentElement? n).elim .ltr p.direction) := by
  rw [direction, List.findSome?_cons, ancestorElements_eq h]
  cases p.ownDirection? n <;> cases p.parentElement? n <;> rfl

/-- Either nothing upwards decides, or the nearest that does. -/
theorem direction_source (h : p.tree.Valid) (hn : p.isElement n = true) :
    (∀ a, p.tree.isInclusiveAncestor a n = true → ¬p.DecidesDirection a) ∧ p.direction n = .ltr ∨
      ∃ a, p.IsDirectionSource a n ∧ p.direction n = p.direction a := by
  -- The induction goes up the tree: an element that does not decide has what its parent has.
  induction h.acyclic n with
  | intro n _ ih =>
    by_cases hdecides : p.DecidesDirection n
    · exact .inr ⟨n, isDirectionSource_self h.toSound hdecides, rfl⟩
    · have heq := direction_eq h.toSound n
      rw [ownDirection?_eq_none_iff.mpr hdecides, Option.getD_none] at heq
      cases hparent : p.parentElement? n with
      | none =>
        rw [hparent] at heq
        refine .inl ⟨fun a ha hdecides' => ?_, heq⟩
        rcases (Tree.Sound.isInclusiveAncestor_iff.mp ha).2 with rfl | ha
        · exact hdecides hdecides'
        · have hmem :=
            (mem_ancestorElements h).mpr ⟨ha, isElement_of_decidesDirection hdecides'⟩
          rw [ancestorElements_eq h.toSound, hparent] at hmem
          cases hmem
      | some a =>
        rw [hparent] at heq
        obtain ⟨ha, helement⟩ := Option.filter_eq_some_iff.mp hparent
        rcases ih a ha helement with ⟨hnone, hltr⟩ | ⟨b, hb, hdirection⟩
        · refine .inl ⟨fun b hb => ?_, heq.trans hltr⟩
          rcases (h.toSound.isInclusiveAncestor_of_child ha).mp hb with rfl | hb
          · exact hdecides
          · exact hnone b hb
        · exact .inr ⟨b, hb.of_parent h.toSound ha hdecides, heq.trans hdirection⟩

/-- The direction of an element that decides it. -/
theorem direction_of_own {direction : TextDirection} (hn : p.ownDirection? n = some direction) :
    p.direction n = direction := by
  rw [Page.direction, List.findSome?_cons, hn]
  rfl

/-! ## Directions of contents -/

/-- The text or entity reference `d` below `n` has the direction of `n`: no element in between sees
to the direction of its contents. -/
structure IsTextOf (p : Page) (n d : NodeId) : Prop where
  below : n ∈ p.tree.ancestors d
  isText : ∃ s, p.tree.data? d = some (.text s) ∨
    ∃ name, p.tree.data? d = some (.entityReference name s)
  inherits : ∀ a ∈ p.tree.ancestors d, n ∈ p.tree.ancestors a →
    p.kind a ∉ [.bdi, .script, .style, .textArea] ∧ p.dirKeyword? a = none

theorem isolatesDirection_eq_false_iff : p.isolatesDirection n = false ↔
    p.kind n ∉ [.bdi, .script, .style, .textArea] ∧ p.dirKeyword? n = none := by
  rw [isolatesDirection, Bool.or_eq_false_iff, Option.isSome_eq_false_iff,
    Option.isNone_iff_eq_none]
  refine and_congr_left fun _ => ?_
  cases p.kind n <;> simp

/-- What the node adds to the text around it. -/
def text? (p : Page) (n : NodeId) : Option String :=
  (p.tree.data? n).bind (·.characterData?)

theorem isSome_text?_iff : (p.text? n).isSome = true ↔ ∃ s, p.tree.data? n = some (.text s) ∨
    ∃ name, p.tree.data? n = some (.entityReference name s) := by
  rw [text?]
  cases p.tree.data? n with
  | none => simp
  | some data => cases data <;> simp [NodeData.characterData?]

/-- The texts that the traversal of the element comes to. -/
def textNodes (p : Page) (n : NodeId) : List NodeId :=
  ((p.tree.pruned (fun m => m != n && p.isolatesDirection m) n).tail).filter
    fun m => (p.text? m).isSome

/-- The traversal starts at the element, so it never leaves out what is below it on its account. -/
theorem mem_tail_pruned (h : p.tree.Sound) :
    d ∈ (p.tree.pruned (fun m => m != n && p.isolatesDirection m) n).tail ↔
      n ∈ p.tree.ancestors d ∧
        ∀ a ∈ p.tree.ancestors d, n ∈ p.tree.ancestors a → p.isolatesDirection a = false := by
  generalize hskip : (fun m => m != n && p.isolatesDirection m) = skip
  have hskip : ∀ a, skip a = (a != n && p.isolatesDirection a) := fun a => by rw [← hskip]
  have hself : ∀ {a}, n ∈ p.tree.ancestors a → a ≠ n := by
    rintro a hna rfl
    exact h.not_mem_ancestors a hna
  have hnodup := h.nodup_pruned skip n
  have hmem : d ∈ p.tree.pruned skip n ↔ _ := h.mem_pruned
  rw [h.pruned_eq] at hnodup hmem ⊢
  rw [List.mem_cons] at hmem
  rw [List.tail_cons]
  constructor
  · intro hd
    obtain ⟨hbelow, hopen⟩ := hmem.mp (.inr hd)
    have hne : d ≠ n := ne_of_mem_of_not_mem hd (List.nodup_cons.mp hnodup).1
    refine ⟨hbelow.resolve_left hne, fun a ha hna => ?_⟩
    simpa [hskip, hself hna] using hopen a ha (.inr hna)
  · rintro ⟨hbelow, hopen⟩
    refine (hmem.mpr ⟨.inr hbelow, fun a ha hna => ?_⟩).resolve_left (hself hbelow)
    rcases hna with rfl | hna
    · simp [hskip]
    · rw [hskip, hopen a ha hna, Bool.and_false]

theorem mem_textNodes (h : p.tree.Sound) : d ∈ p.textNodes n ↔ p.IsTextOf n d := by
  rw [textNodes, List.mem_filter, mem_tail_pruned h, isSome_text?_iff]
  simp only [isolatesDirection_eq_false_iff]
  constructor
  · rintro ⟨⟨hbelow, hinherits⟩, htext⟩
    exact ⟨hbelow, htext, hinherits⟩
  · rintro ⟨hbelow, htext, hinherits⟩
    exact ⟨⟨hbelow, hinherits⟩, htext⟩

theorem nodup_textNodes (h : p.tree.Sound) (n : NodeId) : (p.textNodes n).Nodup :=
  (h.nodup_pruned _ n).sublist (List.filter_sublist.trans (List.tail_sublist _))

theorem pairwise_textNodes (h : p.tree.Sound) (n : NodeId) :
    (p.textNodes n).Pairwise p.tree.ComesBefore :=
  (h.pairwise_comesBefore _ n).sublist (List.filter_sublist.trans (List.tail_sublist _))

/-- The direction of the contents is that of the concatenation of the texts. -/
theorem contentDirection?_eq : p.contentDirection? n =
    TextDirection.ofText? (String.join ((p.textNodes n).filterMap p.text?)) := by
  have hall : ∀ l : List NodeId,
      (l.filter fun m => (p.text? m).isSome).filterMap p.text? = l.filterMap p.text? := by
    intro l
    rw [List.filterMap_filter]
    refine List.filterMap_congr fun m _ => ?_
    cases p.text? m <;> rfl
  rw [TextDirection.ofText?_join, textNodes, hall, ← List.head?_filterMap, List.filterMap_filterMap,
    List.head?_filterMap]
  rfl

/-- The element has a text that the user may change. -/
def IsTextControl (p : Page) (n : NodeId) : Prop :=
  p.kind n = .textArea ∨
    p.kind n = .input ∧ p.inputType n ∈ [.text, .search, .tel, .url, .email]

theorem hasTypedText_iff : p.hasTypedText n = true ↔ p.IsTextControl n := by
  rw [hasTypedText, IsTextControl]
  cases p.kind n with
  | input => cases p.inputType n <;> simp [InputType.hasAutoDirection]
  | _ => simp

theorem ownDirection?_auto
    (hn : p.dirKeyword? n = some .auto ∨ p.dirKeyword? n = none ∧ p.kind n = .bdi) :
    p.ownDirection? n = some (p.autoDirection n) := by
  rcases hn with hkeyword | ⟨hkeyword, hkind⟩
  · rw [ownDirection?, hkeyword]
  · rw [ownDirection?, hkeyword, hkind]

end Page

namespace Document

/-- After any operations, the direction of an element is that of the nearest of it and the nodes
above it that decides its direction, and left to right if none does. An element that decides it by
its contents has the direction of the first character that has one in the concatenation of the texts
below it, in tree order, but for those below an element in between that sees to the direction of its
contents itself; and left to right if there is no such character. A control with a text goes by that
text. -/
theorem direction_run (doctype : Option String) (o : Options) (os : List Operation) :
    let p := ((create doctype o).run os).page
    ∀ n, p.isElement n = true →
      ((∀ a, p.tree.isInclusiveAncestor a n = true → ¬p.DecidesDirection a) ∧
          p.direction n = .ltr ∨
        ∃ a, p.IsDirectionSource a n ∧ p.direction n = p.direction a) ∧
      (p.dirKeyword? n = some .ltr → p.direction n = .ltr) ∧
      (p.dirKeyword? n = some .rtl → p.direction n = .rtl) ∧
      (p.dirKeyword? n = none → p.kind n = .input → p.inputType n = .tel → p.direction n = .ltr) ∧
      (p.dirKeyword? n = some .auto ∨ p.dirKeyword? n = none ∧ p.kind n = .bdi →
        (p.IsTextControl n → p.direction n = (TextDirection.ofText? (p.value n)).getD .ltr) ∧
        (¬p.IsTextControl n → ∃ texts : List NodeId,
          texts.Nodup ∧ texts.Pairwise p.tree.ComesBefore ∧ (∀ d, d ∈ texts ↔ p.IsTextOf n d) ∧
            p.direction n =
              (TextDirection.ofText? (String.join (texts.filterMap p.text?))).getD .ltr)) := by
  intro p n hn
  have hvalid : p.tree.Valid := run_valid doctype o os
  refine ⟨Page.direction_source hvalid hn, ?_, ?_, ?_, ?_⟩
  · intro hkeyword
    exact Page.direction_of_own (by rw [Page.ownDirection?, hkeyword])
  · intro hkeyword
    exact Page.direction_of_own (by rw [Page.ownDirection?, hkeyword])
  · intro hkeyword hkind htype
    exact Page.direction_of_own (by rw [Page.ownDirection?, hkeyword, hkind]; simp [htype])
  · intro hauto
    have hdirection := Page.direction_of_own (Page.ownDirection?_auto hauto)
    constructor
    · intro hcontrol
      rw [hdirection, Page.autoDirection, if_pos (Page.hasTypedText_iff.mpr hcontrol)]
    · intro hcontrol
      refine ⟨p.textNodes n, Page.nodup_textNodes hvalid.toSound n,
        Page.pairwise_textNodes hvalid.toSound n, fun d => Page.mem_textNodes hvalid.toSound, ?_⟩
      rw [hdirection, Page.autoDirection, if_neg (mt Page.hasTypedText_iff.mp hcontrol),
        Page.contentDirection?_eq]

/-- The `b` in an isolated text does not decide the direction of the text around it, and neither
does the digit. The entity reference does, and the element in which it stands has that direction
from above. The input there has its own. -/
theorem direction_run_isolated :
    let p := ((create none .default).run [.createElement "div", .createElement "bdi",
      .createText "b", .createElement "p", .createText "1", .createEntityReference "alef" "\u05d0",
      .createElement "input", .setAttribute 1 "dir" "auto", .setAttribute 7 "type" "tel",
      .insertBefore Tree.root 1 none, .insertBefore 1 2 none, .insertBefore 2 3 none,
      .insertBefore 1 4 none, .insertBefore 4 5 none, .insertBefore 4 6 none,
      .insertBefore 4 7 none]).page
    p.isElement 1 = true ∧ p.dirKeyword? 1 = some .auto ∧ ¬p.IsTextControl 1 ∧
      ¬p.IsTextOf 1 3 ∧ p.IsTextOf 1 6 ∧
      (∃ texts : List NodeId, 3 ∉ texts ∧ 6 ∈ texts ∧ p.direction 1 =
        (TextDirection.ofText? (String.join (texts.filterMap p.text?))).getD .ltr) ∧
      p.direction 1 = .rtl ∧
      p.isElement 4 = true ∧ p.IsDirectionSource 1 4 ∧ p.direction 4 = .rtl ∧
      p.isElement 7 = true ∧ p.dirKeyword? 7 = none ∧ p.kind 7 = .input ∧ p.inputType 7 = .tel ∧
      p.direction 7 = .ltr := by
  intro p
  have hall := direction_run none .default [.createElement "div", .createElement "bdi",
    .createText "b", .createElement "p", .createText "1", .createEntityReference "alef" "\u05d0",
    .createElement "input", .setAttribute 1 "dir" "auto", .setAttribute 7 "type" "tel",
    .insertBefore Tree.root 1 none, .insertBefore 1 2 none, .insertBefore 2 3 none,
    .insertBefore 1 4 none, .insertBefore 4 5 none, .insertBefore 4 6 none,
    .insertBefore 4 7 none]
  have hsound : p.tree.Sound := (run_valid none .default _).toSound
  have h₁ : p.isElement 1 = true := by decide +kernel
  have h₄ : p.isElement 4 = true := by decide +kernel
  have h₇ : p.isElement 7 = true := by decide +kernel
  have hauto : p.dirKeyword? 1 = some .auto := by decide +kernel
  have hcontrol : ¬p.IsTextControl 1 := by
    rw [← Page.hasTypedText_iff]
    decide +kernel
  have hkeyword : p.dirKeyword? 7 = none := by decide +kernel
  have hkind : p.kind 7 = .input := by decide +kernel
  have htype : p.inputType 7 = .tel := by decide +kernel
  have hisolated : ¬p.IsTextOf 1 3 := by
    rw [← Page.mem_textNodes hsound]
    decide +kernel
  have hreference : p.IsTextOf 1 6 := by
    rw [← Page.mem_textNodes hsound]
    decide +kernel
  have hrtl : p.direction 1 = .rtl := by decide +kernel
  obtain ⟨texts, -, -, htexts, hdirection⟩ := ((hall 1 h₁).2.2.2.2 (.inl hauto)).2 hcontrol
  obtain ⟨hnone, -⟩ | ⟨a, ha, hfrom⟩ := (hall 4 h₄).1
  · exact absurd (.inl ⟨.auto, hauto⟩) (hnone 1 (by decide +kernel))
  · have hancestors : p.tree.ancestors 4 = [1, 0] := by decide +kernel
    have habove := (Tree.Sound.isInclusiveAncestor_iff.mp ha.above).2
    rw [hancestors, List.mem_pair] at habove
    rcases habove with rfl | rfl | rfl
    · exact absurd ha.decides (Page.ownDirection?_eq_none_iff.mp (by decide +kernel))
    · exact ⟨h₁, hauto, hcontrol, hisolated, hreference,
        ⟨texts, mt (htexts 3).mp hisolated, (htexts 6).mpr hreference, hdirection⟩, hrtl, h₄, ha,
        hfrom.trans hrtl, h₇, hkeyword, hkind, htype,
        (hall 7 h₇).2.2.2.1 hkeyword hkind htype⟩
    · exact absurd ha.decides (Page.ownDirection?_eq_none_iff.mp (by decide +kernel))

end Document

end StyleTree
