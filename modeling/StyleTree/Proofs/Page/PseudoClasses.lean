import StyleTree.Proofs.Document.Queries
import StyleTree.Proofs.Selector.Chain

/-!
# Matching by a pseudo-class

What it means that an element matches a pseudo-class that is not `:hover` or `:active`, and which
elements are those of the document.
-/

namespace StyleTree.Page

variable {p : Page} {n m : NodeId}

/-- The element matches the pseudo-class. -/
def Matches (p : Page) (n : NodeId) (c : PseudoClass) : Prop :=
  p.isMatch n [.ofCompound [.pseudoClass c]] none = true

theorem matches_iff {c : PseudoClass} (hc : c.isActiveOrHover = false) :
    p.Matches n c ↔ p.isElement n = true ∧ c.holds p n = true := by
  have hbarred : isBarredHover p false [.pseudoClass c] n = false := by
    simp [isBarredHover, Simple.isActiveOrHover, hc]
  rw [Matches, Complex.isMatch_ofCompound, compoundHolds, hbarred]
  simp [allHold, Simple.holds]

theorem mem_elements (h : p.tree.Valid) :
    m ∈ p.elements ↔ p.tree.isConnected m = true ∧ p.isElement m = true := by
  rw [elements, List.mem_filter, h.isConnected_iff]

/-- The elements of the document are in tree order. -/
theorem pairwise_elements (h : p.tree.Valid) :
    p.elements.Pairwise fun a b => p.tree.compare a b = .lt :=
  (h.pairwise_compare.imp And.left).sublist List.filter_sublist

end StyleTree.Page
