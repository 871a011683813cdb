import StyleTree.Tree.Element

/-!
# Trees of nodes

The nodes of a document, in the order of their creation, each with links to the nodes around it.
The position of a node in that order is its identity; positions at which no node was created yet
are foreign to the tree. Nodes that were taken out, or never put in, are roots of trees of their
own. Lists of nodes are read off by following links from node to node.
-/

namespace StyleTree

abbrev NodeId := Nat

inductive NodeData where
  | document
  | doctype (name publicId systemId : String)
  | element (element : Element)
  | text (data : String)
  | comment (data : String)
  /-- An entity reference that is not expanded, with the text that it stands for. -/
  | entityReference (name text : String)
  | processingInstruction (target data : String)
deriving DecidableEq, Repr, Inhabited

namespace NodeData

def element? : NodeData → Option Element
  | element e => some e
  | _ => none

def isElement : NodeData → Bool
  | element _ => true
  | _ => false

/-- What the node adds to the text of its parent. -/
def characterData? : NodeData → Option String
  | text s => some s
  | entityReference _ s => some s
  | _ => none

end NodeData

structure Node where
  data : NodeData
  parent : Option NodeId := none
  firstChild : Option NodeId := none
  lastChild : Option NodeId := none
  prevSibling : Option NodeId := none
  nextSibling : Option NodeId := none
deriving DecidableEq, Repr, Inhabited

structure Tree where
  nodes : Array Node
deriving DecidableEq, Repr

namespace Tree

/-- The tree of a new document: nothing but the document node. -/
def empty : Tree := ⟨#[{ data := .document }]⟩

instance : Inhabited Tree := ⟨empty⟩

/-- The document node. -/
def root : NodeId := 0

def get? (t : Tree) (n : NodeId) : Option Node :=
  t.nodes[n]?

/-- The node belongs to the tree. -/
def has (t : Tree) (n : NodeId) : Bool :=
  n < t.nodes.size

def data? (t : Tree) (n : NodeId) : Option NodeData :=
  (t.get? n).map (·.data)

def element? (t : Tree) (n : NodeId) : Option Element :=
  (t.data? n).bind (·.element?)

def isElement (t : Tree) (n : NodeId) : Bool :=
  (t.element? n).isSome

/-! ## Links -/

def parent? (t : Tree) (n : NodeId) : Option NodeId :=
  (t.get? n).bind (·.parent)

def firstChild? (t : Tree) (n : NodeId) : Option NodeId :=
  (t.get? n).bind (·.firstChild)

def lastChild? (t : Tree) (n : NodeId) : Option NodeId :=
  (t.get? n).bind (·.lastChild)

def prevSibling? (t : Tree) (n : NodeId) : Option NodeId :=
  (t.get? n).bind (·.prevSibling)

def nextSibling? (t : Tree) (n : NodeId) : Option NodeId :=
  (t.get? n).bind (·.nextSibling)

/-- Up to `limit` nodes: the first one, and after each node the one that its `link` leads to. -/
def walk (t : Tree) (link : Node → Option NodeId) : Nat → Option NodeId → List NodeId
  | 0, _ => []
  | _, none => []
  | limit + 1, some n => n :: t.walk link limit ((t.get? n).bind link)

/-! ## Children and siblings -/

/-- The children. As in every walk that comes back to no node, there cannot be more of them than
nodes. -/
def children (t : Tree) (n : NodeId) : List NodeId :=
  t.walk (·.nextSibling) t.nodes.size (t.firstChild? n)

/-- The siblings after the node, nearest first. -/
def following (t : Tree) (n : NodeId) : List NodeId :=
  t.walk (·.nextSibling) t.nodes.size (t.nextSibling? n)

/-- The siblings before the node, nearest first. -/
def preceding (t : Tree) (n : NodeId) : List NodeId :=
  t.walk (·.prevSibling) t.nodes.size (t.prevSibling? n)

/-! ## Ancestors -/

/-- The proper ancestors, nearest first. -/
def ancestors (t : Tree) (n : NodeId) : List NodeId :=
  t.walk (·.parent) t.nodes.size (t.parent? n)

/-- The node, if it belongs to the tree, and its ancestors. -/
def inclusiveAncestors (t : Tree) (n : NodeId) : List NodeId :=
  if t.has n then n :: t.ancestors n else []

def isInclusiveAncestor (t : Tree) (a n : NodeId) : Bool :=
  (t.inclusiveAncestors n).contains a

/-- The document is an ancestor of the node, or the node itself. -/
def isConnected (t : Tree) (n : NodeId) : Bool :=
  (t.inclusiveAncestors n).getLast? == some root

/-! ## Descendants -/

/-- Where the traversal of a node and its descendants in tree order stands. -/
structure Traversal where
  /-- The node that comes next. -/
  current : Option NodeId
  /-- How many levels that node is below the one at which the traversal started. -/
  depth : Nat
deriving DecidableEq, Repr, Inhabited

namespace Traversal

/-- The traversal of the node and its descendants, before the first step. -/
def start (n : NodeId) : Traversal :=
  ⟨some n, 0⟩

/-- The traversal after all that is below `n`, which is `depth` levels below the start: at the next
sibling of `n` or of the nearest node above it that has one, or at the end if there is none below
the start. -/
def leave (t : Tree) : Nat → NodeId → Traversal
  | 0, _ => ⟨none, 0⟩
  | depth + 1, n =>
    match t.nextSibling? n, t.parent? n with
    | some m, _ => ⟨some m, depth + 1⟩
    | none, some p => leave t depth p
    | none, none => ⟨none, depth⟩

/-- The node at which the traversal stands, and the traversal after it: at its first child, or else
at what comes after all that is below it. -/
def next? (t : Tree) (s : Traversal) : Option (NodeId × Traversal) :=
  s.current.map fun n =>
    (n, match t.firstChild? n with
      | some c => ⟨some c, s.depth + 1⟩
      | none => leave t s.depth n)

/-- The traversal without the descendants of the node that it gave last. If that node has children,
the traversal stands at the first of them. -/
def skipChildren (t : Tree) (s : Traversal) : Traversal :=
  match s.current, s.current.bind t.parent? with
  | some n, some p =>
    if s.depth ≠ 0 ∧ t.firstChild? p = some n then leave t (s.depth - 1) p else s
  | _, _ => s

/-- Up to `limit` nodes that the traversal gives, where the descendants of every node that satisfies
`skip` are skipped right after it. -/
def nodes (t : Tree) (skip : NodeId → Bool) : Nat → Traversal → List NodeId
  | 0, _ => []
  | limit + 1, s =>
    match s.next? t with
    | some (n, s) => n :: nodes t skip limit (if skip n then s.skipChildren t else s)
    | none => []

end Traversal

/-- The node and its descendants in tree order, without the descendants of nodes that satisfy
`skip`. No node is given twice, so there cannot be more of them than nodes, but for a foreign one,
which stands alone. -/
def pruned (t : Tree) (skip : NodeId → Bool) (n : NodeId) : List NodeId :=
  (Traversal.start n).nodes t skip (t.nodes.size + 1)

/-- The node and its descendants in tree order. -/
def preorder (t : Tree) (n : NodeId) : List NodeId :=
  t.pruned (fun _ => false) n

/-- The descendants of the node in tree order. -/
def descendants (t : Tree) (n : NodeId) : List NodeId :=
  (t.preorder n).tail

/-! ## Tree order -/

/-- The order of two nodes by their paths, which start at one root: the first nodes in which the
paths differ are siblings and decide, and an ancestor comes before its descendants. -/
def comparePaths (t : Tree) : List NodeId → List NodeId → Ordering
  | [], _ => .lt
  | _, [] => .gt
  | x :: xs, y :: ys =>
    if x = y then t.comparePaths xs ys
    else if (t.following x).contains y then .lt
    else .gt

/-- The order of two nodes. Nodes of different trees are ordered by their creation. -/
def compare (t : Tree) (a b : NodeId) : Ordering :=
  if a = b then .eq
  else
    match (t.inclusiveAncestors a).reverse, (t.inclusiveAncestors b).reverse with
    | r :: xs, s :: ys => if r = s then t.comparePaths xs ys else Ord.compare a b
    | _, _ => Ord.compare a b

/-! ## Text -/

/-- The text of the children. -/
def childText (t : Tree) (n : NodeId) : String :=
  String.join ((t.children n).filterMap fun c => (t.data? c).bind (·.characterData?))

/-! ## Changes -/

/-- The tree with a new node, which is a root. -/
def push (t : Tree) (data : NodeData) : Tree :=
  ⟨t.nodes.push { data }⟩

/-- The node that the next `push` creates. -/
def fresh (t : Tree) : NodeId :=
  t.nodes.size

def update (t : Tree) (n : NodeId) (f : Node → Node) : Tree :=
  ⟨t.nodes.modify n f⟩

def setData (t : Tree) (n : NodeId) (data : NodeData) : Tree :=
  t.update n ({ · with data })

/-- The node with other links to what is above it and beside it. -/
def setPlace (t : Tree) (n : NodeId) (parent prev next : Option NodeId) : Tree :=
  t.update n ({ · with parent, prevSibling := prev, nextSibling := next })

/-- The tree where `next` comes after `prev` among the children of `p`, and first if `prev` is
absent. -/
def setNext (t : Tree) (p : NodeId) (prev next : Option NodeId) : Tree :=
  match prev with
  | some m => t.update m ({ · with nextSibling := next })
  | none => t.update p ({ · with firstChild := next })

/-- The tree where `prev` comes before `next` among the children of `p`, and last if `next` is
absent. -/
def setPrev (t : Tree) (p : NodeId) (next prev : Option NodeId) : Tree :=
  match next with
  | some m => t.update m ({ · with prevSibling := prev })
  | none => t.update p ({ · with lastChild := prev })

/-- The tree with the root `n` as a child of `p`, before the child `before` or last. -/
def link (t : Tree) (p n : NodeId) (before : Option NodeId) : Tree :=
  let prev := before.elim (t.lastChild? p) t.prevSibling?
  ((t.setPlace n (some p) prev before).setNext p prev (some n)).setPrev p before (some n)

/-- The tree with `n` as a root. -/
def unlink (t : Tree) (n : NodeId) : Tree :=
  let prev := t.prevSibling? n
  let next := t.nextSibling? n
  let alone := t.setPlace n none none none
  match t.parent? n with
  | some p => (alone.setNext p prev next).setPrev p next prev
  | none => alone

end Tree

end StyleTree
