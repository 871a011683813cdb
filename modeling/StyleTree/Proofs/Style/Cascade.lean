import StyleTree.Document.Style
import StyleTree.Proofs.Style.Matching

/-!
# Lawful cascades

A cascade is lawful if it is a function of what it is given, where it may look at the page through
the element: at the elements around it, at what is in them, and at which selectors they match. What
else is on the page, it does not see; the cascades that come with the library do not.
-/

namespace StyleTree

/-! ## What elements show -/

/-- The elements of `p` show the same on `q`. -/
structure Page.SameView (p q : Page) : Prop where
  html : q.html = p.html
  mode : q.mode = p.mode
  url : q.url = p.url
  element? : ∀ {n}, p.isElement n = true → q.element? n = p.element? n
  parentElement? : ∀ {n}, p.isElement n = true → q.parentElement? n = p.parentElement? n
  childElements : ∀ {n}, p.isElement n = true → q.childElements n = p.childElements n
  precedingElements : ∀ {n}, p.isElement n = true → q.precedingElements n = p.precedingElements n
  followingElements : ∀ {n}, p.isElement n = true → q.followingElements n = p.followingElements n
  childText : ∀ {n}, p.isElement n = true → q.tree.childText n = p.tree.childText n
  holds : ∀ {n}, p.isElement n = true → ∀ (pseudo : Option PseudoElement) (s : Selector),
    s.holds q pseudo n = s.holds p pseudo n

theorem Page.SameElements.sameView {p q : Page} (h : SameElements p q) : p.SameView q where
  html := h.html
  mode := h.mode
  url := h.url
  element? := h.element?
  parentElement? := h.parentElement?
  childElements hn := h.childElements (.inr hn)
  precedingElements := h.precedingElements
  followingElements := h.followingElements
  childText := h.childText
  holds := h.holds

theorem Page.SameView.matchingSpecificity? {p q : Page} (h : p.SameView q) {n : NodeId}
    (hn : p.isElement n = true) (list : List Selector) (pseudo : Option PseudoElement) :
    q.matchingSpecificity? n list pseudo = p.matchingSpecificity? n list pseudo := by
  have hq : q.isElement n = true := by
    show (q.element? n).isSome = true
    rw [h.element? hn]
    exact hn
  unfold Page.matchingSpecificity? Page.matchedSpecificities
  rw [if_pos hn, if_pos hq, List.filter_congr fun s _ => h.holds hn pseudo s]

/-! ## Inputs that are told apart by nothing -/

/-- The inputs are for the same element and differ in nothing but in what no element shows. -/
structure CascadeInputs.Alike (i j : CascadeInputs) : Prop where
  isElement : i.page.isElement i.node = true
  page : i.page.SameView j.page
  node : j.node = i.node
  pseudo : j.pseudo = i.pseudo
  parent : j.parent = i.parent
  sheets : j.sheets = i.sheets
  styleAttribute : j.styleAttribute = i.styleAttribute
  hints : j.hints = i.hints
  registered : j.registered = i.registered
  medium : j.medium = i.medium

theorem CascadeInputs.Alike.matchingRules {i j : CascadeInputs} (h : i.Alike j) :
    j.matchingRules = i.matchingRules := by
  have hrules : j.rules = i.rules := by
    rw [rules, rules, h.sheets, h.medium]
  have hspecificity : ∀ list : List Selector,
      j.page.matchingSpecificity? j.node list j.pseudo =
        i.page.matchingSpecificity? i.node list i.pseudo := by
    intro list
    rw [h.node, h.pseudo, h.page.matchingSpecificity? h.isElement]
  unfold CascadeInputs.matchingRules
  simp only [hrules, hspecificity]

/-! ## Cascades -/

namespace Cascade

/-- The cascade gives the same values for inputs that differ in nothing that an element shows. -/
def Lawful (c : Cascade) : Prop :=
  ∀ i j : CascadeInputs, i.Alike j → c j = c i

theorem initialValues_lawful : initialValues.Lawful := by
  intro i j h
  simp only [initialValues, h.registered, h.parent]

theorem declared_lawful : declared.Lawful := by
  intro i j h
  simp only [declared, h.parent, h.matchingRules, h.hints, h.styleAttribute]

theorem trace_lawful : trace.Lawful := by
  intro i j h
  have helement : j.page.element? j.node = i.page.element? i.node := by
    rw [h.node, h.page.element? h.isElement]
  simp only [trace, h.pseudo, helement, h.parent, h.medium, h.sheets, h.hints, h.matchingRules,
    h.styleAttribute, h.registered]

end Cascade

end StyleTree
