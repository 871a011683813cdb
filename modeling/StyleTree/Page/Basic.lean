import StyleTree.Document.Options
import StyleTree.Tree.Basic

/-!
# Pages

All that decides which selectors an element matches: the tree, the kind of the document, its mode
and its URL. Elements are named by their nodes; what is said of an element holds of no other node.
-/

namespace StyleTree

structure Page where
  tree : Tree
  /-- The document is an HTML document. -/
  html : Bool
  mode : Mode
  url : Option Url
deriving DecidableEq, Repr, Inhabited

namespace Page

/-! ## Elements -/

def element? (p : Page) (n : NodeId) : Option Element :=
  p.tree.element? n

def isElement (p : Page) (n : NodeId) : Bool :=
  p.tree.isElement n

def kind (p : Page) (n : NodeId) : ElementKind :=
  (p.element? n).elim .other Element.kind

/-- The value of an attribute in no namespace. -/
def attr? (p : Page) (n : NodeId) (name : String) : Option String :=
  (p.element? n).bind (·.attr? name)

def hasAttr (p : Page) (n : NodeId) (name : String) : Bool :=
  (p.attr? n name).isSome

def id? (p : Page) (n : NodeId) : Option String :=
  (p.element? n).bind (·.id?)

/-- The element is in the state. -/
def hasState (p : Page) (n : NodeId) (f : StateFlag) : Bool :=
  (p.element? n).any (·.state.has f)

/-- An element of HTML in an HTML document. -/
def isHtmlElement (p : Page) (n : NodeId) : Bool :=
  p.html && (p.element? n).any (·.name.ns == Namespace.html)

/-- The elements have the same namespace, and the same local name in any case. -/
def isSameType (p : Page) (a b : NodeId) : Bool :=
  match p.element? a, p.element? b with
  | some e, some f => e.isSameType f
  | _, _ => false

/-! ## Elements around an element -/

def parentElement? (p : Page) (n : NodeId) : Option NodeId :=
  (p.tree.parent? n).filter p.isElement

/-- The proper ancestors that are elements, nearest first. -/
def ancestorElements (p : Page) (n : NodeId) : List NodeId :=
  (p.tree.ancestors n).takeWhile p.isElement

/-- The element siblings before the node, nearest first. -/
def precedingElements (p : Page) (n : NodeId) : List NodeId :=
  (p.tree.preceding n).filter p.isElement

/-- The element siblings after the node, nearest first. -/
def followingElements (p : Page) (n : NodeId) : List NodeId :=
  (p.tree.following n).filter p.isElement

def childElements (p : Page) (n : NodeId) : List NodeId :=
  (p.tree.children n).filter p.isElement

/-- The descendants that are elements, in tree order. -/
def descendantElements (p : Page) (n : NodeId) : List NodeId :=
  (p.tree.descendants n).filter p.isElement

/-- The elements of the document in tree order; detached ones do not count. -/
def elements (p : Page) : List NodeId :=
  (p.tree.preorder Tree.root).filter p.isElement

/-- The first element of the document with the id. Nothing has the empty id. -/
def elementById? (p : Page) (id : String) : Option NodeId :=
  if id = "" then none else p.elements.find? fun n => p.id? n == some id

/-! ## The URL that references resolve against -/

/-- The `href` of a base element. -/
def ownBaseHref? (p : Page) (n : NodeId) : Option String :=
  if p.kind n = .base then p.attr? n "href" else none

/-- The `href` of the first base element that has one. -/
def baseHref? (p : Page) : Option String :=
  p.elements.findSome? p.ownBaseHref?

/-- A reference, resolved against `base` if there is one. -/
def resolve? (base : Option Url) (reference : String) : Option Url :=
  match base with
  | some url => url.join? (trim reference)
  | none => Url.ofString? (trim reference)

/-- The URL of the first base element, resolved against the URL of the document; the latter if
there is no such element or its URL cannot be read. -/
def baseUrl (p : Page) : Option Url :=
  match p.baseHref? with
  | some href => (resolve? p.url href).orElse fun _ => p.url
  | none => p.url

end Page

end StyleTree
