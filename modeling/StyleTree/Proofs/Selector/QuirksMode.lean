import Mathlib.Data.List.Infix
import StyleTree.Proofs.Css.Lists
import StyleTree.Proofs.Document.Modes
import StyleTree.Proofs.Selector.Arguments
import StyleTree.Proofs.Selector.Chain
import StyleTree.Proofs.Text.Ascii

/-!
# Quirks mode only loosens matching

In quirks mode ids, classes and the values of attributes are compared in any case. A comparison that
holds of two texts holds of the texts in lower case, whatever its operator. So what a selector says
without negation and without regard to positions, links and states goes on to hold when a page is in
quirks mode.
-/

namespace StyleTree

/-! ## Texts in lower case -/

theorem pieces_map {α : Type} {p : α → Bool} {f : α → α} (hp : ∀ x, p (f x) = p x) (xs : List α) :
    pieces p (xs.map f) = (pieces p xs).map (List.map f) := by
  induction xs with
  | nil => rfl
  | cons x xs ih =>
    simp only [List.map_cons, pieces, hp, ih]
    split
    · rfl
    · cases pieces p xs <;> rfl

/-- Texts that are equal are so in any case. -/
theorem textEq_caseless {caseless : Bool} {s t : String} (h : textEq caseless s t = true) :
    textEq true s t = true := by
  cases caseless with
  | true => exact h
  | false =>
    obtain rfl := beq_iff_eq.mp h
    exact Ascii.eqIgnoreCase_refl s

namespace AttributeOperator

theorem occursIn_iff (part value : List Char) : occursIn part value = true ↔ part <:+: value := by
  induction value with
  | nil => simp [occursIn]
  | cons c cs ih => simp [occursIn, List.infix_cons_iff, ih]

/-- An operator that relates a value to an operand relates them also after a change of characters
that keeps white space and hyphens apart from the rest. -/
theorem holds_map {f : Char → Char} (hspace : ∀ c, Ascii.isWhitespace (f c) = Ascii.isWhitespace c)
    (hhyphen : f '-' = '-') {o : AttributeOperator} {value operand : List Char}
    (h : o.holds value operand = true) : o.holds (value.map f) (operand.map f) = true := by
  cases o with
  | equal =>
    obtain rfl := beq_iff_eq.mp h
    exact beq_self_eq_true _
  | beginsWith =>
    simp only [holds, Bool.and_eq_true, List.isPrefixOf_iff_prefix, List.isEmpty_map] at h ⊢
    exact ⟨h.1, h.2.map f⟩
  | endsWith =>
    simp only [holds, Bool.and_eq_true, List.isSuffixOf_iff_suffix, List.isEmpty_map] at h ⊢
    exact ⟨h.1, h.2.map f⟩
  | contains =>
    simp only [holds, Bool.and_eq_true, occursIn_iff, List.isEmpty_map] at h ⊢
    exact ⟨h.1, h.2.map f⟩
  | includes =>
    simp only [holds, Bool.and_eq_true, List.contains_iff_mem, List.isEmpty_map,
      pieces_map hspace] at h ⊢
    exact ⟨h.1, List.mem_map_of_mem h.2⟩
  | dashMatch =>
    simp only [holds, Bool.or_eq_true, beq_iff_eq, List.isPrefixOf_iff_prefix] at h ⊢
    refine h.imp (congrArg (List.map f)) fun hprefix => ?_
    have := hprefix.map f
    rwa [List.map_append, List.map_singleton, hhyphen] at this

end AttributeOperator

theorem AttributeComparison.holds_caseless {caseless : Bool} {c : AttributeComparison}
    {value : String} (h : c.holds caseless value = true) : c.holds true value = true := by
  cases caseless with
  | true => exact h
  | false => exact AttributeOperator.holds_map Ascii.isWhitespace_toLower rfl h

/-! ## Simple selectors -/

namespace Page

variable {p : Page} {n : NodeId} {name : String}

theorem hasId_quirks (h : p.hasId n name = true) : (p.inMode .quirks).hasId n name = true := by
  simp only [hasId, Option.any_eq_true, Bool.and_eq_true] at h ⊢
  obtain ⟨id, hid, hne, h⟩ := h
  exact ⟨id, hid, hne, textEq_caseless h⟩

theorem hasClass_quirks {caseless : Bool} (h : p.hasClass n caseless name = true) :
    (p.inMode .quirks).hasClass n caseless name = true := by
  simp only [hasClass, Option.any_eq_true, List.any_eq_true] at h ⊢
  obtain ⟨classes, hclasses, word, hword, h⟩ := h
  refine ⟨classes, hclasses, word, hword, ?_⟩
  rw [mode_inMode, Mode.isQuirks, Bool.or_true]
  exact textEq_caseless h

theorem passesAttributeTest_quirks {t : AttributeTest} (h : p.passesAttributeTest n t = true) :
    (p.inMode .quirks).passesAttributeTest n t = true := by
  simp only [passesAttributeTest, Option.any_eq_true, List.any_eq_true, Bool.and_eq_true,
    Option.all_eq_true] at h ⊢
  obtain ⟨e, he, a, ha, hname, h⟩ := h
  refine ⟨e, he, a, ha, hname, fun c hc => ?_⟩
  rw [mode_inMode, Mode.isQuirks, Bool.true_or]
  exact AttributeComparison.holds_caseless (h c hc)

end Page

/-- The selector is one for a type, for ids, for classes or for attributes, or asks for one of a
list of selectors, or one that is related. So is one that could not be read, which nothing
matches. -/
def Simple.isPlain : Simple → Bool
  | .localName _ | .universal | .noNamespace | .id _ | .className _ | .attribute _ => true
  | .isAny _ | .whereAny _ | .has _ | .invalid _ => true
  | _ => false

/-- Only plain selectors occur in it, in arguments too. -/
def Complex.isPlain (c : Complex) : Bool :=
  c.isMadeOf (·.isPlain) true

/-- What is plain is not barred. -/
theorem isBarredHover_of_plain {p : Page} {nested : Bool} {simples : List Simple} {n : NodeId}
    (hs : compoundMadeOf (·.isPlain) true simples = true) :
    isBarredHover p nested simples n = false := by
  cases simples with
  | nil => simp [isBarredHover]
  | cons s rest =>
    rw [compoundMadeOf, Bool.and_eq_true] at hs
    have hplain := s.of_isMadeOf hs.1
    have hhover : s.isActiveOrHover = false := by
      cases s <;> first | rfl | cases hplain
    simp [isBarredHover, hhover]

/-! ## All selectors -/

section Quirks

variable {p : Page}

theorem Combinator.candidates_inMode (m : Mode) (n : NodeId) (c : Combinator) :
    c.candidates (p.inMode m) n = c.candidates p n := by
  cases c <;> rfl

theorem Combinator.reach_inMode (m : Mode) (n : NodeId) (c : Combinator) :
    c.reach (p.inMode m) n = c.reach p n := by
  cases c <;> rfl

theorem compoundHolds_quirks {nested : Bool} {anchor : Option NodeId} {n : NodeId}
    {simples : List Simple} (hs : compoundMadeOf (·.isPlain) true simples = true)
    (hall : allHold p anchor n simples = true → allHold (p.inMode .quirks) anchor n simples = true)
    (hn : compoundHolds p nested anchor n simples = true) :
    compoundHolds (p.inMode .quirks) nested anchor n simples = true := by
  rw [compoundHolds, Bool.and_eq_true] at hn ⊢
  rw [isBarredHover_of_plain hs]
  exact ⟨hall hn.1, rfl⟩

-- Induction on the selector. An argument asks whether some search finds a match, and a search that
-- does not find one may end elsewhere in quirks mode; so what a search looks for is compared.
mutual

theorem Simple.holds_quirks (h : p.tree.Sound) (anchor : Option NodeId) (n : NodeId) :
    ∀ s : Simple, s.isMadeOf (·.isPlain) true = true → s.holds p anchor n = true →
      s.holds (p.inMode .quirks) anchor n = true
  | .localName _, _, hn | .noNamespace, _, hn | .invalid _, _, hn => by
    rw [Simple.holds] at hn ⊢
    exact hn
  | .universal, _, _ => by rw [Simple.holds]
  | .id name, _, hn => by
    rw [Simple.holds] at hn ⊢
    exact Page.hasId_quirks hn
  | .className name, _, hn => by
    rw [Simple.holds] at hn ⊢
    exact Page.hasClass_quirks hn
  | .attribute test, _, hn => by
    rw [Simple.holds] at hn ⊢
    exact Page.passesAttributeTest_quirks hn
  | .isAny list, hs, hn | .whereAny list, hs, hn => by
    rw [Simple.isMadeOf, Bool.and_eq_true] at hs
    rw [Simple.holds] at hn ⊢
    exact someHolds_quirks h true anchor n list hs.2 hn
  | .has list, hs, hn => by
    rw [Simple.isMadeOf, Bool.and_eq_true] at hs
    rw [Simple.holds] at hn ⊢
    exact someReached_quirks h n list hs.2 hn

theorem allHold_quirks (h : p.tree.Sound) (anchor : Option NodeId) (n : NodeId) :
    ∀ list : List Simple, compoundMadeOf (·.isPlain) true list = true →
      allHold p anchor n list = true → allHold (p.inMode .quirks) anchor n list = true
  | [], _, _ => by rw [allHold]
  | s :: rest, hs, hn => by
    rw [compoundMadeOf, Bool.and_eq_true] at hs
    rw [allHold, Bool.and_eq_true] at hn ⊢
    exact ⟨s.holds_quirks h anchor n hs.1 hn.1, allHold_quirks h anchor n rest hs.2 hn.2⟩

/-- The elements on the left that make `n` match do so in quirks mode. -/
theorem Complex.selects_quirks (h : p.tree.Sound) (nested : Bool) (anchor : Option NodeId) :
    ∀ (c : Complex) (n : NodeId), c.isPlain = true → c.Selects p nested anchor n →
      c.Selects (p.inMode .quirks) nested anchor n
  | .compound simples, n, hc, hn => by
    rw [Complex.isPlain, Complex.isMadeOf] at hc
    exact compoundHolds_quirks hc (allHold_quirks h anchor n simples hc) hn
  | .step simples c left, n, hc, hn => by
    rw [Complex.isPlain, Complex.isMadeOf, Bool.and_eq_true] at hc
    obtain ⟨hsubject, m, hm, hleft⟩ := hn
    refine ⟨compoundHolds_quirks hc.1 (allHold_quirks h anchor n simples hc.1) hsubject, m, ?_, ?_⟩
    · rwa [Combinator.candidates_inMode]
    · exact left.selects_quirks h nested anchor m hc.2 hleft
  | .anchor, _, _, hn => hn

theorem someHolds_quirks (h : p.tree.Sound) (nested : Bool) (anchor : Option NodeId) (n : NodeId) :
    ∀ list : List Complex, allMadeOf (·.isPlain) true list = true →
      someHolds p nested anchor n list = true →
      someHolds (p.inMode .quirks) nested anchor n list = true
  | [], _, hn => by
    rw [someHolds] at hn
    cases hn
  | c :: rest, hs, hn => by
    rw [allMadeOf, Bool.and_eq_true] at hs
    rw [someHolds, Bool.or_eq_true, Complex.isFound_search_iff h] at hn
    rw [someHolds, Bool.or_eq_true, Complex.isFound_search_iff (p := p.inMode .quirks) h]
    exact hn.imp (c.selects_quirks h nested anchor n hs.1)
      (someHolds_quirks h nested anchor n rest hs.2)

theorem someReached_quirks (h : p.tree.Sound) (n : NodeId) :
    ∀ list : List Complex, allMadeOf (·.isPlain) true list = true →
      someReached p n list = true → someReached (p.inMode .quirks) n list = true
  | [], _, hn => by
    rw [someReached] at hn
    cases hn
  | c :: rest, hs, hn => by
    rw [allMadeOf, Bool.and_eq_true] at hs
    rw [someReached, Bool.or_eq_true] at hn ⊢
    refine hn.imp (fun hreached => ?_) (someReached_quirks h n rest hs.2)
    obtain ⟨m, hm, hfound⟩ := List.any_eq_true.mp hreached
    rw [Complex.isFound_search_iff h] at hfound
    rw [Combinator.reach_inMode]
    refine List.any_eq_true.mpr ⟨m, hm, ?_⟩
    rw [Complex.isFound_search_iff (p := p.inMode .quirks) h]
    exact c.selects_quirks h true (some n) m hs.1 hfound

end

/-- What matches a list of plain selectors goes on to match it in quirks mode. -/
theorem Page.isMatch_quirks (h : p.tree.Sound) {n : NodeId} {list : List Selector}
    (hlist : ∀ s ∈ list, s.complex.isPlain = true) (hn : p.isMatch n list none = true) :
    (p.inMode .quirks).isMatch n list none = true := by
  rw [Page.isMatch_iff] at hn ⊢
  obtain ⟨helement, s, hs, hholds⟩ := hn
  refine ⟨helement, s, hs, ?_⟩
  simp only [Selector.holds, Bool.and_eq_true, beq_iff_eq] at hholds ⊢
  obtain ⟨⟨hnone, hcomplex⟩, -⟩ := hholds
  have hpseudo : s.pseudo = none := Option.map_eq_none_iff.mp hnone
  refine ⟨⟨hnone, ?_⟩, by simp [hpseudo]⟩
  rw [Complex.holds, Complex.isFound_search_iff h] at hcomplex
  rw [Complex.holds, Complex.isFound_search_iff (p := p.inMode .quirks) h]
  exact s.complex.selects_quirks h false none n (hlist s hs) hcomplex

end Quirks

/-- Of two documents that went through the same operations and differ in the mode that their options
ask for, the one in quirks mode lets match whatever matches in the other one: an element that
matches a list of plain selectors there matches it here. -/
theorem Document.isMatch_quirks_run (doctype : Option String) (o : Options) (os : List Operation)
    (n : NodeId) (list : List Selector) (hlist : ∀ s ∈ list, s.complex.isPlain = true) :
    let strict := (create doctype { o with mode := some .strict }).run os
    let quirks := (create doctype { o with mode := some .quirks }).run os
    strict.page.isMatch n list none = true → quirks.page.isMatch n list none = true := by
  intro strict quirks hn
  have hpage : quirks.page = strict.page.inMode .quirks :=
    page_run_mode doctype { o with mode := some .strict } .quirks os
  rw [hpage]
  exact Page.isMatch_quirks (run_valid doctype _ os).toSound hlist hn

/-- A paragraph matches the class that is written in its own case, and in quirks mode the one in
another case too. -/
theorem Document.isMatch_quirks_run_class :
    let os : List Operation := [.createElement "p", .setAttribute 1 "class" "Note"]
    let strict := (create none { Options.default with mode := some .strict }).run os
    let quirks := (create none { Options.default with mode := some .quirks }).run os
    let ofClass (name : String) : List Selector :=
      [⟨.compound [.localName "p", .isAny [.compound [.className name]]], none⟩]
    strict.page.isMatch 1 (ofClass "Note") none = true ∧
      quirks.page.isMatch 1 (ofClass "Note") none = true ∧
      strict.page.isMatch 1 (ofClass "note") none = false ∧
      quirks.page.isMatch 1 (ofClass "note") none = true := by
  intro os strict quirks ofClass
  have hstrict : strict.page.isMatch 1 (ofClass "Note") none = true := by decide
  refine ⟨hstrict, ?_, by decide, by decide⟩
  exact isMatch_quirks_run none .default os 1 (ofClass "Note") (by decide) hstrict

end StyleTree
