import StyleTree.Selector.Matching

/-!
# Positions and relations

The positions of elements among their siblings, and the elements that they are related to, for who
has an element and not a selector at hand.
-/

namespace StyleTree

/-- Which siblings count. -/
inductive SiblingFilter where
  | any
  /-- Those of the same type. -/
  | sameType
  /-- Those that match a selector of the list. -/
  | matching (list : List Selector)
deriving Inhabited

namespace SiblingFilter

/-- The sibling `m` of `n` counts. -/
def accepts (p : Page) (n m : NodeId) : SiblingFilter → Bool
  | any => true
  | sameType => p.isSameType n m
  | matching list => p.isMatch m list none

end SiblingFilter

namespace Page

/-- The position of the element among the siblings that count, from one. None if it does not count
itself. -/
def siblingIndex? (p : Page) (n : NodeId) (filter : SiblingFilter) (fromEnd : Bool) : Option Nat :=
  if filter.accepts p n n then
    let others := if fromEnd then p.followingElements n else p.precedingElements n
    some (1 + others.countP (filter.accepts p n))
  else none

/-- The formula selects the position of the element. -/
def hasPosition (p : Page) (n : NodeId) (formula : AnPlusB) (filter : SiblingFilter)
    (fromEnd : Bool) : Bool :=
  (p.siblingIndex? n filter fromEnd).any fun i => i < 2147483648 && formula.selects i

/-- The elements that the combinator leads to when it is read from left to right. -/
def related (p : Page) (n : NodeId) : Combinator → List NodeId
  | .child => p.childElements n
  | .descendant => p.descendantElements n
  | .nextSibling => (p.followingElements n).head?.toList
  | .laterSibling => p.followingElements n

/-- An element that the combinator leads to matches a selector of the list. -/
def hasRelated (p : Page) (n : NodeId) (c : Combinator) (list : List Selector) : Bool :=
  (p.related n c).any fun m => p.isMatch m list none

end Page

end StyleTree
