import StyleTree.Proofs.Document.Tree
import StyleTree.Proofs.Selector.Extended
import StyleTree.Proofs.Selector.Handle

/-!
# Pseudo-elements follow their element

With a pseudo-element behind it a selector is for that pseudo-element and for nothing else, and it
matches the pseudo-element of the elements that it matches without.
-/

namespace StyleTree

open Css Css.ComponentValue

namespace Page

variable {p : Page} {n : NodeId} {s : Selector} {q : PseudoElement}

/-- What is left of the selector without its pseudo-element matches: the selector in front of it
and, again for the element, what is written after it. -/
def isMatchRemainder (p : Page) (n : NodeId) (s : Selector) : Bool :=
  p.isMatch n [⟨s.complex, none⟩] none && s.pseudo.all fun q => allHold p none n q.2

/-- A selector matches for its own pseudo-element, or for none. -/
theorem isMatch_eq_isMatchRemainder {pseudo : Option PseudoElement} :
    p.isMatch n [s] pseudo = (s.pseudoElement == pseudo && p.isMatchRemainder n s) := by
  rw [Bool.eq_iff_iff, isMatch_iff, isMatchRemainder, Bool.and_eq_true, Bool.and_eq_true,
    isMatch_complex]
  simp only [List.mem_singleton, exists_eq_left, Selector.holds, Bool.and_eq_true]
  tauto

theorem isMatchRemainder_withPseudo (hs : s.pseudo = none) :
    p.isMatchRemainder n (s.withPseudo q) = p.isMatchRemainder n s := by
  simp [isMatchRemainder, Selector.withPseudo, hs, allHold]

theorem isMatch_withPseudo (hs : s.pseudo = none) (pseudo : Option PseudoElement) :
    p.isMatch n [s.withPseudo q] pseudo = (some q == pseudo && p.isMatch n [s] none) := by
  rw [isMatch_eq_isMatchRemainder, isMatch_eq_isMatchRemainder, isMatchRemainder_withPseudo hs,
    Selector.pseudoElement, Selector.pseudoElement, hs]
  rfl

theorem matchedIndex?_eq_findIdx? (list : List Selector) (pseudo : Option PseudoElement) :
    p.matchedIndex? n list pseudo =
      list.findIdx? fun s => s.pseudoElement == pseudo && p.isMatchRemainder n s := by
  have hsingle : (fun s => s.pseudoElement == pseudo && p.isMatchRemainder n s) =
      fun s => p.isElement n && s.holds p pseudo n := by
    funext s
    rw [← isMatch_eq_isMatchRemainder, Bool.eq_iff_iff, isMatch_iff, Bool.and_eq_true]
    simp only [List.mem_singleton, exists_eq_left]
  rw [hsingle, matchedIndex?]
  cases p.isElement n with
  | true => rfl
  | false => exact (List.findIdx?_eq_none_iff.mpr fun _ _ => rfl).symm

end Page

/-- After any edits of a document, whatever came of them, a selector with a pseudo-element behind it
matches for that pseudo-element what it matches without; it matches nothing for another one or for
none, and without the pseudo-element nothing for one. Two colons and the name behind the values of a
selector are read as that pseudo-element behind the selector. So the first selector of a list that
matches for a pseudo-element is the first one that is for it and whose remainder matches the
element. In a list that is read from a text, matching against the handle of the pseudo-element,
which hides the parent, finds the same one. -/
theorem Document.isMatch_pseudoElement_run (doctype : Option String) (o : Options)
    (os : List Operation) (n : NodeId) (q : PseudoElement) :
    let p := ((create doctype o).run os).page
    (∀ s : Selector, s.pseudo = none →
      p.isMatch n [s.withPseudo q] (some q) = p.isMatch n [s] none ∧
      (∀ pseudo, pseudo ≠ some q → p.isMatch n [s.withPseudo q] pseudo = false) ∧
      p.isMatch n [s] (some q) = false) ∧
    (∀ (text text' : String) (s : Selector), Selector.parseList? text = some [s] →
      s.pseudo = none → SelectorReader.EndsSolid (values text) →
      values text' = values text ++ q.values →
      Selector.parseList? text' = some [s.withPseudo q]) ∧
    (∀ list : List Selector, p.matchedIndex? n list (some q) =
      list.findIdx? fun s => s.pseudoElement == some q && p.isMatchRemainder n s) ∧
    ∀ (text : String) (list : List Selector) (pseudo : Option PseudoElement),
      Selector.parseList? text = some list →
      p.matchedIndex? n list pseudo = p.admittedIndex? ⟨n, pseudo⟩ list := by
  intro p
  refine ⟨fun s hs => ⟨?_, fun pseudo hpseudo => ?_, ?_⟩,
    fun text text' s h hs hsolid happend => ?_,
    fun list => Page.matchedIndex?_eq_findIdx? list (some q),
    fun text list pseudo h => Page.matchedIndex?_eq_admittedIndex? h p n pseudo⟩
  · rw [Page.isMatch_withPseudo hs, beq_self_eq_true, Bool.true_and]
  · rw [Page.isMatch_withPseudo hs, beq_eq_false_iff_ne.mpr hpseudo.symm, Bool.false_and]
  · rw [Page.isMatch_eq_isMatchRemainder, Selector.pseudoElement, hs]
    rfl
  · rw [Selector.parseList?, happend]
    exact Selector.ofValues?_append q h hs hsolid

/-- The parent is hidden from the pseudo-element, but not from the selector in front of it. -/
theorem Document.isMatch_pseudoElement_run_child :
    let os : List Operation := [.createElement "div", .createElement "p", .insertBefore 1 2 none]
    let p := ((create none .default).run os).page
    ∃ s t, Selector.parseList? "div>p" = some [s] ∧ Selector.parseList? "div>p::before" = some [t] ∧
      p.isMatch 2 [s] none = true ∧ p.isMatch 2 [t] (some .before) = true ∧
      p.isMatch 2 [t] (some .after) = false ∧ p.isMatch 2 [s] (some .before) = false ∧
      p.matchedIndex? 2 [s, t] (some .before) = some 1 ∧
      p.admittedIndex? ⟨2, some .before⟩ [t] = some 0 := by
  intro os p
  have hread : (Selector.parseList? "div>p").any (fun list =>
      list.length == 1 && list.all (·.pseudo.isNone) && p.isMatch 2 list none) = true := by
    decide +kernel
  obtain ⟨list, hlist, hread⟩ := (Option.any_eq_true _ _).mp hread
  simp only [Bool.and_eq_true, beq_iff_eq] at hread
  obtain ⟨⟨hlength, hnone⟩, hmatch⟩ := hread
  obtain ⟨s, rfl⟩ := List.length_eq_one_iff.mp hlength
  have hs : s.pseudo = none := by simpa using hnone
  have hlexemes : lexemes "div>p".toList = [⟨.ident "div", ['d', 'i', 'v'], true⟩,
      ⟨.delim '>', ['>'], true⟩, ⟨.ident "p", ['p'], true⟩] := by
    decide +kernel
  have hvalues : values "div>p" = [ident "div", delim '>', ident "p"] := congrArg nest hlexemes
  have hsolid : SelectorReader.EndsSolid (values "div>p") := by
    rw [hvalues]
    rintro v ⟨⟩
    rfl
  have hlexemes' : lexemes "div>p::before".toList = lexemes "div>p".toList ++
      PseudoElement.before.values.map fun v => ⟨v.head, v.text, true⟩ := by
    decide +kernel
  have happend : values "div>p::before" = values "div>p" ++ PseudoElement.before.values := by
    rw [hvalues, values, hlexemes', hlexemes]
    rfl
  obtain ⟨hfollows, hextended, hindex, hhandle⟩ :=
    isMatch_pseudoElement_run none .default os 2 .before
  obtain ⟨hbefore, hother, hplain⟩ := hfollows s hs
  have ht := hextended _ _ s hlist hs hsolid happend
  have hmatched := hbefore.trans hmatch
  refine ⟨s, s.withPseudo .before, hlist, ht, hmatch, hmatched, hother _ (by decide), hplain, ?_,
    ?_⟩
  · rw [hindex]
    simp only [← Page.isMatch_eq_isMatchRemainder, List.findIdx?_cons, hplain, hmatched]
    rfl
  · rw [← hhandle _ _ _ ht, hindex]
    simp only [← Page.isMatch_eq_isMatchRemainder, List.findIdx?_cons, hmatched]
    rfl

end StyleTree
