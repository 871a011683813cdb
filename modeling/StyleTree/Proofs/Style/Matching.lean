import StyleTree.Proofs.Style.Traits
import StyleTree.Selector.Matching

/-!
# Selectors see elements alone

On pages with the same elements, an element matches the same selectors. A selector asks what holds
of the element, and of those elements that its combinators and its arguments lead to; so this goes
by induction on selectors, for all elements at once.
-/

namespace StyleTree

/-! ## Search -/

theorem SearchResult.search_congr {c : Combinator} {f g : NodeId → SearchResult} {l : List NodeId}
    (h : ∀ m ∈ l, f m = g m) : search c f l = search c g l := by
  induction l with
  | nil => rfl
  | cons m l ih =>
    have hrest := ih fun k hk => h k (List.mem_cons_of_mem m hk)
    simp only [search, h m List.mem_cons_self, hrest]

namespace Combinator

variable {p : Page} {n m : NodeId} {c : Combinator}

/-- The elements that a combinator leads to are elements. -/
theorem isElement_of_mem_candidates (hm : m ∈ c.candidates p n) : p.isElement m = true := by
  cases c with
  | descendant => exact Page.isElement_of_mem_ancestorElements hm
  | child =>
    rw [candidates, Option.mem_toList] at hm
    exact Page.isElement_of_parentElement? hm
  | laterSibling => exact List.of_mem_filter hm
  | nextSibling =>
    rw [candidates, Option.mem_toList] at hm
    exact List.of_mem_filter (List.mem_of_head? hm)

theorem isElement_of_mem_reach (hm : m ∈ c.reach p n) : p.isElement m = true := by
  have hsiblings : m ∈ (p.followingElements n).flatMap (fun b => b :: p.descendantElements b) →
      p.isElement m = true := by
    intro ha
    obtain ⟨b, hb, ha⟩ := List.mem_flatMap.mp ha
    rcases List.mem_cons.mp ha with rfl | ha
    · exact List.of_mem_filter hb
    · exact List.of_mem_filter ha
  cases c with
  | descendant | child => exact List.of_mem_filter hm
  | nextSibling | laterSibling => exact hsiblings hm

end Combinator

namespace Page.SameElements

variable {p q : Page}

section Around

variable (h : SameElements p q)

include h

theorem candidates {n : NodeId} (hn : p.isElement n = true) (c : Combinator) :
    c.candidates q n = c.candidates p n := by
  cases c with
  | descendant => exact h.ancestorElements hn
  | child => rw [Combinator.candidates, Combinator.candidates, h.parentElement? hn]
  | laterSibling => exact h.precedingElements hn
  | nextSibling => rw [Combinator.candidates, Combinator.candidates, h.precedingElements hn]

theorem reach {n : NodeId} (hn : p.isElement n = true) (c : Combinator) :
    c.reach q n = c.reach p n := by
  have hsiblings : (q.followingElements n).flatMap (fun m => m :: q.descendantElements m) =
      (p.followingElements n).flatMap fun m => m :: p.descendantElements m := by
    rw [h.followingElements hn]
    refine List.flatMap_congr fun m hm => ?_
    rw [h.descendantElements (List.of_mem_filter hm)]
  cases c with
  | descendant | child => exact h.descendantElements hn
  | nextSibling | laterSibling => exact hsiblings

end Around

/-! ## Simple selectors -/

section Element

variable (h : SameElements p q) {n : NodeId} (hn : p.isElement n = true)

include h hn

/-- A test of a position is decided by which siblings count. -/
theorem nth (t : NthTest) {f g : NodeId → Bool} (hfg : ∀ m, p.isElement m = true → f m = g m) :
    t.holds q f n = t.holds p g n := by
  have hfrom : ∀ fromEnd, t.holdsFrom q fromEnd f n = t.holdsFrom p fromEnd g n := by
    intro fromEnd
    unfold NthTest.holdsFrom
    rw [h.followingElements hn, h.precedingElements hn]
    dsimp only
    congr 3
    refine List.countP_congr fun m hm => ?_
    rw [hfg]
    cases fromEnd <;> exact List.of_mem_filter hm
  unfold NthTest.holds
  rw [hfrom, hfrom]

theorem pseudoClass (c : PseudoClass) : c.holds q n = c.holds p n := by
  cases c with
  | customState name => simp only [PseudoClass.holds, h.element? hn]
  | active | focus | focusVisible | hover => exact h.hasState hn _
  | anyLink => exact h.isLink hn
  | link | visited => simp only [PseudoClass.holds, h.isLink hn, h.hasState hn]
  | blank => exact h.allText hn _
  | checked => exact h.isChecked hn
  | default => exact h.isDefault hn
  | dir argument => simp only [PseudoClass.holds, h.direction hn]
  | disabled => exact h.isDisabled hn
  | enabled => exact h.isEnabled hn
  | focusWithin => exact h.hasFocusWithin hn
  | indeterminate => exact h.isIndeterminate hn
  | lang ranges => exact h.matchesLanguage hn ranges
  | optional => exact h.isOptional hn
  | placeholderShown => exact h.showsPlaceholder hn
  | readOnly | readWrite => simp only [PseudoClass.holds, h.isReadWrite hn]
  | required => exact h.isRequired hn
  | target => exact h.isTarget hn

theorem isBarredHover (nested : Bool) (simples : List Simple) :
    isBarredHover q nested simples n = isBarredHover p nested simples n := by
  rw [StyleTree.isBarredHover, StyleTree.isBarredHover, h.mode, h.isLink hn]

end Element

/-! ## Selectors -/

mutual

theorem simple (h : SameElements p q) (anchor : Option NodeId) {n : NodeId}
    (hn : p.isElement n = true) :
    ∀ s : Simple, s.holds q anchor n = s.holds p anchor n
  | .localName name => by simp only [Simple.holds, h.element? hn, h.isHtmlElement hn]
  | .universal => by simp only [Simple.holds]
  | .noNamespace => by simp only [Simple.holds, h.element? hn]
  | .id name => by simp only [Simple.holds, h.hasId hn]
  | .className name => by simp only [Simple.holds, h.hasClass hn]
  | .attribute test => by simp only [Simple.holds, h.passesAttributeTest hn]
  | .root | .scope => by simp only [Simple.holds, h.isRoot hn]
  | .empty => by
    simp only [Simple.holds]
    exact h.allText hn _
  | .nth test => by
    simp only [Simple.holds]
    refine h.nth hn test fun m hm => ?_
    rw [NthTest.counts, NthTest.counts, h.isSameType hn hm]
  | .nthOf test list => by
    simp only [Simple.holds]
    rw [h.someHolds true anchor hn list,
      h.nth hn test fun m hm => h.someHolds true anchor hm list]
  | .negation list => by simp only [Simple.holds, h.someHolds true anchor hn list]
  | .isAny list | .whereAny list => by simp only [Simple.holds, h.someHolds true anchor hn list]
  | .has list => by simp only [Simple.holds, h.someReached hn list]
  | .pseudoClass c => by simp only [Simple.holds, h.pseudoClass hn]
  | .host _ | .invalid _ => by simp only [Simple.holds]

theorem allHold (h : SameElements p q) (anchor : Option NodeId) {n : NodeId}
    (hn : p.isElement n = true) :
    ∀ list : List Simple, allHold q anchor n list = allHold p anchor n list
  | [] => by simp only [StyleTree.allHold]
  | s :: rest => by simp only [StyleTree.allHold, h.simple anchor hn s, h.allHold anchor hn rest]

theorem search (h : SameElements p q) (nested : Bool) (anchor : Option NodeId) {n : NodeId}
    (hn : p.isElement n = true) :
    ∀ c : Complex, c.search q nested anchor n = c.search p nested anchor n
  | .compound simples => by
    simp only [Complex.search, h.allHold anchor hn simples, h.isBarredHover hn]
  | .step simples c left => by
    simp only [Complex.search, h.allHold anchor hn simples, h.isBarredHover hn, h.candidates hn]
    rw [SearchResult.search_congr fun m hm =>
      h.search nested anchor (Combinator.isElement_of_mem_candidates hm) left]
  | .anchor => by simp only [Complex.search]

theorem someHolds (h : SameElements p q) (nested : Bool) (anchor : Option NodeId) {n : NodeId}
    (hn : p.isElement n = true) :
    ∀ list : List Complex, someHolds q nested anchor n list = someHolds p nested anchor n list
  | [] => by simp only [StyleTree.someHolds]
  | c :: rest => by
    simp only [StyleTree.someHolds, h.search nested anchor hn c, h.someHolds nested anchor hn rest]

theorem someReached (h : SameElements p q) {n : NodeId} (hn : p.isElement n = true) :
    ∀ list : List Complex, someReached q n list = someReached p n list
  | [] => by simp only [StyleTree.someReached]
  | c :: rest => by
    simp only [StyleTree.someReached, h.reach hn, h.someReached hn rest]
    rw [any_congr fun m hm => ?_]
    rw [h.search true (some n) (Combinator.isElement_of_mem_reach hm) c]

end

/-- An element of both pages matches the same selectors, and so do its pseudo-elements. -/
theorem holds (h : SameElements p q) {n : NodeId} (hn : p.isElement n = true)
    (pseudo : Option PseudoElement) (s : Selector) : s.holds q pseudo n = s.holds p pseudo n := by
  have hpseudo : (s.pseudo.all fun x => StyleTree.allHold q none n x.2) =
      s.pseudo.all fun x => StyleTree.allHold p none n x.2 := by
    cases s.pseudo with
    | none => rfl
    | some x => exact h.allHold none hn x.2
  rw [Selector.holds, Selector.holds, Complex.holds, Complex.holds, h.search false none hn, hpseudo]

end Page.SameElements

end StyleTree
