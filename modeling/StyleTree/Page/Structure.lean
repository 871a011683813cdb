import StyleTree.Page.Basic
import StyleTree.Text.Utf8

/-!
# Places in the tree

What holds of an element because of where it stands and what it contains.
-/

namespace StyleTree.Page

/-! ## Siblings -/

def isFirstChild (p : Page) (n : NodeId) : Bool :=
  (p.precedingElements n).isEmpty

def isLastChild (p : Page) (n : NodeId) : Bool :=
  (p.followingElements n).isEmpty

def isOnlyChild (p : Page) (n : NodeId) : Bool :=
  p.isFirstChild n && p.isLastChild n

def isFirstOfType (p : Page) (n : NodeId) : Bool :=
  (p.precedingElements n).all (!p.isSameType n ·)

def isLastOfType (p : Page) (n : NodeId) : Bool :=
  (p.followingElements n).all (!p.isSameType n ·)

def isOnlyOfType (p : Page) (n : NodeId) : Bool :=
  p.isFirstOfType n && p.isLastOfType n

/-! ## Root, contents and target -/

/-- The element is the child of the document. -/
def isRoot (p : Page) (n : NodeId) : Bool :=
  ((p.tree.parent? n).bind p.tree.data?) == some .document

/-- No child is an element, and the text of every child satisfies `p`. -/
def allText (pg : Page) (n : NodeId) (p : String → Bool) : Bool :=
  (pg.tree.children n).all fun c =>
    (pg.tree.data? c).all fun d => !d.isElement && d.characterData?.all p

/-- The element has no element and no character in it; comments and instructions do not count. -/
def isEmpty (p : Page) (n : NodeId) : Bool :=
  p.allText n (· == "")

/-- As `isEmpty`, but there may be blank characters. -/
def isBlank (p : Page) (n : NodeId) : Bool :=
  p.allText n (·.toList.all StyleTree.isBlank)

/-- The id of the element is what the fragment of the URL says. -/
def isTarget (p : Page) (n : NodeId) : Bool :=
  match p.url.bind (·.fragment), p.id? n with
  | some fragment, some id =>
    fragment != "" && id != "" && Utf8.decode (Percent.decode fragment.toList) == id.toList
  | _, _ => false

/-- The element or one of its descendants has the focus. -/
def hasFocusWithin (p : Page) (n : NodeId) : Bool :=
  (List.range p.tree.nodes.size).any fun m =>
    p.hasState m .focus && p.tree.isInclusiveAncestor n m

end StyleTree.Page
