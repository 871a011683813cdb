import StyleTree.Document.Edit

/-!
# Templates

Descriptions of subtrees, and the edits that make them. A node is complete, with its attributes,
before it is put into the tree, and in the tree before its children are made.
-/

namespace StyleTree

/-- An attribute of a template. -/
inductive AttributeTemplate where
  | plain (name value : String)
  | withNamespace (ns : Option String) (qualified value : String)
deriving DecidableEq, Repr, Inhabited

/-- How the name of an element of a template is read. -/
inductive NameTemplate where
  | plain (localName : String)
  | withNamespace (ns : Option String) (qualified : String)
deriving DecidableEq, Repr, Inhabited

inductive Template where
  | text (data : String)
  | comment (data : String)
  | entityReference (name text : String)
  | instruction (target data : String)
  | element (name : NameTemplate) (attributes : List AttributeTemplate) (children : List Template)
deriving Inhabited

namespace AttributeTemplate

def set (n : NodeId) : AttributeTemplate → Edit Unit
  | plain name value => Edit.setAttribute n name value
  | withNamespace ns qualified value => Edit.setAttributeNs n ns qualified value

end AttributeTemplate

namespace NameTemplate

def create : NameTemplate → Edit NodeId
  | plain localName => Edit.createElement localName
  | withNamespace ns qualified => Edit.createElementNs ns qualified

end NameTemplate

namespace Template

/-- Puts the new node below the parent, if there is one. -/
def place (parent : Option NodeId) (n : NodeId) : Edit Unit :=
  match parent with
  | some p => Edit.insertBefore p n none
  | none => pure ()

/-- Makes a node without children and puts it below the parent. -/
def leaf (parent : Option NodeId) (create : Edit NodeId) : Edit NodeId := do
  let n ← create
  place parent n
  return n

mutual

/-- Makes the subtree and puts it below the parent, if there is one. What was made before an edit
is refused stays. -/
def build (parent : Option NodeId) : Template → Edit NodeId
  | text data => leaf parent (Edit.createText data)
  | comment data => leaf parent (Edit.createComment data)
  | entityReference name data => leaf parent (Edit.createEntityReference name data)
  | instruction target data => leaf parent (Edit.createInstruction target data)
  | element name attributes children => do
    let n ← name.create
    attributes.forM (·.set n)
    place parent n
    buildAll n children
    return n

/-- Makes the subtrees one after another below the parent. -/
def buildAll (parent : NodeId) : List Template → Edit Unit
  | [] => pure ()
  | t :: rest => do
    discard <| build (some parent) t
    buildAll parent rest

end

end Template

end StyleTree
