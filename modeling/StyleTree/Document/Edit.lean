import StyleTree.Document.Basic

/-!
# Editing documents

The operations that change a document. An edit that is refused leaves the document as it was: all
that can be wrong with it is found before anything is changed.
-/

namespace StyleTree

/-- Why an edit is refused. -/
inductive DocumentError where
  /-- The tree would not be one of a document. -/
  | hierarchy
  | notFound
  | invalidCharacter
  /-- Nodes of that type have nothing of the kind. -/
  | wrongNodeType
  /-- A property of that name is registered already. -/
  | alreadyRegistered
  | namespaceMismatch
  /-- The text is not the name of a custom property. -/
  | notCustomProperty (name : String)
  /-- The text is no list of selectors. -/
  | notSelectors
deriving DecidableEq, Repr, Inhabited

namespace DocumentError

def message : DocumentError → String
  | hierarchy => "the operation would yield an incorrect node tree"
  | notFound => "the node was not found"
  | invalidCharacter => "the string contains invalid characters"
  | wrongNodeType => "the node is of the wrong type"
  | alreadyRegistered => "the object cannot be modified this way"
  | namespaceMismatch => "the operation is not allowed by namespaces"
  | notCustomProperty name =>
    "syntax error: \x60" ++ name ++ "\x60 is not a custom property name"
  | notSelectors => "syntax error: not a list of selectors"

def ofNameError : NameError → DocumentError
  | .invalidCharacter => invalidCharacter
  | .namespaceMismatch => namespaceMismatch

end DocumentError

/-! ## What edits do -/

namespace Document

def withTree (d : Document) (t : Tree) : Document :=
  { d with page := { d.page with tree := t } }

/-- The change is made known for each of the nodes, in order. -/
def notifyAll (c : Change) (d : Document) (nodes : List NodeId) : Document :=
  nodes.foldl (notify c) d

def push (d : Document) (data : NodeData) : Document :=
  d.withTree (d.page.tree.push data)

/-- The node `n` is taken out from below `p`. -/
def detach (d : Document) (p n : NodeId) : Document :=
  let d := d.withTree (d.page.tree.unlink n)
  let removed := d.page.tree.preorder n
  ({ d with cache := removed.foldl StyleCache.forget d.cache }.notifyAll .removed removed).notifyAll
    .children [p]

/-- The root `n` is put in below `p`. -/
def attach (d : Document) (p n : NodeId) (before : Option NodeId) : Document :=
  let d := d.withTree (d.page.tree.link p n before)
  (d.notifyAll .inserted (d.page.tree.preorder n)).notifyAll .children [p]

/-- The node is an element with that name, those attributes and those states. -/
def withElement (d : Document) (n : NodeId) (e : Element) : Document :=
  d.withTree (d.page.tree.setData n (.element e))

/-- The element has other attributes, where only the one of that name differs. -/
def withAttributes (d : Document) (n : NodeId) (e : Element) (attributes : List Attribute)
    (changed : Name) : Document :=
  (d.withElement n { e with attributes }).notify (.ofAttribute changed) n

/-- The element is in other states. -/
def withStates (d : Document) (n : NodeId) (e : Element) : Document :=
  (d.withElement n e).stale .styles

/-- The node has other data, with another text. -/
def withText (d : Document) (n : NodeId) (data : NodeData) : Document :=
  (d.withTree (d.page.tree.setData n data)).notifyAll .children (d.page.tree.parent? n).toList

/-- The document has another URL. Another fragment makes nothing but styles stale. -/
def withUrl (d : Document) (url : Option Url) : Document :=
  let moved := { d with page := { d.page with url } }
  if d.page.url.map Url.withoutFragment = url.map Url.withoutFragment then moved.stale .styles
  else { moved with sheets := moved.sheets.forgetAll }.stale .sheets

def withHeader (d : Document) (value : Option String) : Document :=
  { d with sheets := { d.sheets with header := value } }.stale .sheets

def withMedium (d : Document) (medium : String) : Document :=
  { d with medium }.stale .sheets

def register (d : Document) (r : Registration) : Document :=
  { d with registered := d.registered ++ [r] }.stale .sheets

def withCascade (d : Document) (cascade : Cascade) : Document :=
  { d with cascade }.stale .sheets

def withLoader (d : Document) (loader : Loader) : Document :=
  { d with loader, sheets := d.sheets.forgetAll }.stale .sheets

def selectSet (d : Document) (name : String) : Document :=
  { d with sheets := d.sheets.select name }.stale .sheets

def enableSet (d : Document) (name : String) : Document :=
  { d with sheets := d.sheets.enable name }.stale .sheets

end Document

/-- An edit of a document, which may be refused. -/
abbrev Edit := EStateM DocumentError Document

namespace Edit

/-- The document after the edit, whether it was carried out or refused. -/
def after {α : Type} (e : Edit α) (d : Document) : Document :=
  match e d with
  | .ok _ d => d
  | .error _ d => d

/-! ## Checks -/

def refuse {α : Type} (e : DocumentError) : Edit α :=
  throw e

def page : Edit Page :=
  return (← get).page

def tree : Edit Tree :=
  return (← get).page.tree

/-- The node is a name in the namespace. -/
def nameOf (ns : Option String) (qualified : String) : Edit Name :=
  match Name.ofQualified (ns.getD Namespace.none) qualified with
  | .ok name => pure name
  | .error e => refuse (.ofNameError e)

def checkName (s : String) : Edit Unit :=
  if Name.isValid s then pure () else refuse .invalidCharacter

/-- The node's element. -/
def element (n : NodeId) : Edit Element := do
  match (← tree).data? n with
  | some (.element e) => return e
  | some _ => refuse .wrongNodeType
  | none => refuse .notFound

/-! ## New nodes -/

def push (data : NodeData) : Edit NodeId := do
  let t ← tree
  modify (·.push data)
  return t.fresh

/-- A new element, in the namespace of HTML in an HTML document and in none in others. -/
def createElement (localName : String) : Edit NodeId := do
  checkName localName
  let ns := if (← page).html then Namespace.html else Namespace.none
  push (.element (.ofName ⟨none, ns, localName⟩))

def createElementNs (ns : Option String) (qualified : String) : Edit NodeId := do
  push (.element (.ofName (← nameOf ns qualified)))

def createText (data : String) : Edit NodeId :=
  push (.text data)

def createComment (data : String) : Edit NodeId :=
  push (.comment data)

def createEntityReference (name text : String) : Edit NodeId := do
  checkName name
  push (.entityReference name text)

/-- The text contains the mark that ends an instruction. -/
def hasInstructionEnd : List Char → Bool
  | '?' :: '>' :: _ => true
  | _ :: r => hasInstructionEnd r
  | [] => false

def createInstruction (target data : String) : Edit NodeId := do
  checkName target
  if hasInstructionEnd data.toList then refuse .invalidCharacter
  push (.processingInstruction target data)

/-! ## The tree -/

/-- A node of that data cannot be put below a node of that data, whatever else is there. -/
def isMisplaced (parent child : NodeData) : Bool :=
  match child with
  | .document => true
  | .text _ | .entityReference .. => parent == .document
  | .doctype .. => parent != .document
  | _ => false

/-- There may be only one child of that kind below a document. -/
def isSingle (a b : NodeData) : Bool :=
  match a, b with
  | .element _, .element _ => true
  | .doctype .., .doctype .. => true
  | _, _ => false

/-- Why `n` cannot be put below `p` before `before`, if it cannot. -/
def insertionError? (t : Tree) (p n : NodeId) (before : Option NodeId) : Option DocumentError :=
  match t.data? p, t.data? n with
  | some parent, some child =>
    if !(parent == .document || parent.isElement) then some .hierarchy
    else if t.isInclusiveAncestor n p then some .hierarchy
    else if before.any fun c => t.parent? c != some p then some .notFound
    else if isMisplaced parent child then some .hierarchy
    else if parent == .document &&
        (t.children p).any fun c => c != n && (t.data? c).any (isSingle child) then
      some .hierarchy
    else none
  | _, _ => some .notFound

/-- Takes `n` out from below `p`. -/
def removeChild (p n : NodeId) : Edit Unit := do
  let t ← tree
  if !t.has p || t.parent? n != some p then refuse .notFound
  modify (·.detach p n)

/-- Puts `n` below `p`, before `before` or last. A node that has a parent is moved. -/
def insertBefore (p n : NodeId) (before : Option NodeId) : Edit Unit := do
  let t ← tree
  if let some e := insertionError? t p n before then refuse e
  -- What follows the node stays where it is.
  let reference := if before = some n then t.nextSibling? n else before
  if let some old := t.parent? n then removeChild old n
  modify (·.attach p n reference)

/-! ## Attributes and text -/

/-- The name as an attribute of the element has it: elements of HTML have them in lower case. -/
def attributeName (n : NodeId) (name : String) : Edit String := do
  return if (← page).isHtmlElement n then Ascii.lower name else name

/-- Sets the first attribute that satisfies `p`, or a new one of the given name. -/
def putAttribute (n : NodeId) (p : Attribute → Bool) (name : Name) (value : String) :
    Edit Unit := do
  let e ← element n
  let (attributes, set) := Element.putAttr p name value e.attributes
  modify (·.withAttributes n e attributes set)

/-- Removes the first attribute that satisfies `p`, if there is one. -/
def eraseAttribute (n : NodeId) (p : Attribute → Bool) : Edit Unit := do
  let e ← element n
  if let some (attributes, erased) := Element.eraseAttr? p e.attributes then
    modify (·.withAttributes n e attributes erased)

/-- Sets the attribute that is written with the name; a new one is in no namespace. -/
def setAttribute (n : NodeId) (name value : String) : Edit Unit := do
  checkName name
  let name ← attributeName n name
  putAttribute n (·.name.qualified == name) (.plain name) value

def setAttributeNs (n : NodeId) (ns : Option String) (qualified value : String) :
    Edit Unit := do
  let name ← nameOf ns qualified
  putAttribute n (fun a => a.name.ns == name.ns && a.name.localName == name.localName) name value

def removeAttribute (n : NodeId) (name : String) : Edit Unit := do
  let name ← attributeName n name
  eraseAttribute n (·.name.qualified == name)

def removeAttributeNs (n : NodeId) (ns : Option String) (localName : String) : Edit Unit :=
  eraseAttribute n fun a => a.name.ns == ns.getD Namespace.none && a.name.localName == localName

/-- The data with another text, if data of its kind is text. -/
def withText? (text : String) : NodeData → Option NodeData
  | .text _ => some (.text text)
  | .comment _ => some (.comment text)
  | .entityReference name _ => some (.entityReference name text)
  | .processingInstruction target _ => some (.processingInstruction target text)
  | .document | .doctype .. | .element _ => none

def setText (n : NodeId) (text : String) : Edit Unit := do
  match (← tree).data? n with
  | none => refuse .notFound
  | some old =>
    match withText? text old with
    | none => refuse .wrongNodeType
    | some new => modify (·.withText n new)

/-! ## The document -/

def setUrl (url : Option Url) : Edit Unit :=
  modify (·.withUrl url)

def setHeader (value : Option String) : Edit Unit :=
  modify (·.withHeader value)

def setMedium (medium : String) : Edit Unit := do
  if (← get).medium ≠ medium then modify (·.withMedium medium)

def register (r : Registration) : Edit Unit := do
  if !Registration.isCustomName r.name then refuse (.notCustomProperty r.name)
  if (← get).registered.any (·.name == r.name) then refuse .alreadyRegistered
  modify (·.register r)

/-- Makes everything stale. -/
def rebuild : Edit Unit :=
  modify (·.stale .sheets)

def setCascade (cascade : Cascade) : Edit Unit :=
  modify (·.withCascade cascade)

def setLoader (loader : Loader) : Edit Unit :=
  modify (·.withLoader loader)

/-! ## States -/

/-- Gives the element other states; styles are stale if they differ. -/
def putStates (n : NodeId) (old new : Element) : Edit Unit := do
  if new ≠ old then modify (·.withStates n new)

def setState (n : NodeId) (flags : List StateFlag) (value : Bool) : Edit Unit := do
  let e ← element n
  putStates n e { e with state := e.state.set flags value }

def addCustomState (n : NodeId) (name : String) : Edit Unit := do
  let e ← element n
  putStates n e { e with
    customStates := if e.customStates.contains name then e.customStates
      else e.customStates ++ [name] }

def removeCustomState (n : NodeId) (name : String) : Edit Unit := do
  let e ← element n
  putStates n e { e with customStates := e.customStates.filter (· != name) }

/-- Takes the element out of all states. Styles are stale afterwards in any case. -/
def clearStates (n : NodeId) : Edit Unit := do
  let e ← element n
  modify (·.withStates n { e with state := .empty, customStates := [] })

/-! ## Sets of style sheets -/

/-- Reads the list of style sheets. -/
def sheetList : Edit SheetList :=
  modifyGet Document.readSheets

/-- Selects a set of style sheets, or none by the empty text. A name without a set is ignored. -/
def selectSet (name : String) : Edit Unit := do
  -- The list is not read for the empty text.
  let isKnown ← if name = "" then pure true else (·.sets.contains name) <$> sheetList
  if isKnown then modify (·.selectSet name)

/-- Enables a set besides the selected one, until another one is selected. -/
def enableSet (name : String) : Edit Unit := do
  if name ≠ "" then modify (·.enableSet name)

/-- The edit, which makes no node. -/
def silent {α : Type} (e : Edit α) : Edit (Option NodeId) := do
  discard e
  return none

/-- Reads the style of an element or pseudo-element. -/
def style (n : NodeId) (pseudo : Option PseudoElement) : Edit (Option StyleObject) :=
  modifyGet fun d => d.readStyle n pseudo

end Edit

/-! ## All edits -/

/-- The operations by which a document changes; reading may change what is kept. -/
inductive Operation where
  | createElement (localName : String)
  | createElementNs (ns : Option String) (qualified : String)
  | createText (data : String)
  | createComment (data : String)
  | createEntityReference (name text : String)
  | createInstruction (target data : String)
  | insertBefore (parent node : NodeId) (before : Option NodeId)
  | removeChild (parent node : NodeId)
  | setAttribute (node : NodeId) (name value : String)
  | setAttributeNs (node : NodeId) (ns : Option String) (qualified value : String)
  | removeAttribute (node : NodeId) (name : String)
  | removeAttributeNs (node : NodeId) (ns : Option String) (localName : String)
  | setText (node : NodeId) (text : String)
  | setUrl (url : Option Url)
  | setHeader (value : Option String)
  | setMedium (medium : String)
  | register (registration : Registration)
  | rebuild
  | setCascade (cascade : Cascade)
  | setLoader (loader : Loader)
  | setState (node : NodeId) (flags : List StateFlag) (value : Bool)
  | addCustomState (node : NodeId) (name : String)
  | removeCustomState (node : NodeId) (name : String)
  | clearStates (node : NodeId)
  | selectSet (name : String)
  | enableSet (name : String)
  | readSheets
  | readStyle (node : NodeId) (pseudo : Option PseudoElement)

namespace Operation

/-- The edit that the operation stands for. It gives the node that it made, if it made one. -/
def edit : Operation → Edit (Option NodeId)
  | createElement localName => some <$> Edit.createElement localName
  | createElementNs ns qualified => some <$> Edit.createElementNs ns qualified
  | createText data => some <$> Edit.createText data
  | createComment data => some <$> Edit.createComment data
  | createEntityReference name text => some <$> Edit.createEntityReference name text
  | createInstruction target data => some <$> Edit.createInstruction target data
  | insertBefore parent node before => Edit.silent <| Edit.insertBefore parent node before
  | removeChild parent node => Edit.silent <| Edit.removeChild parent node
  | setAttribute node name value => Edit.silent <| Edit.setAttribute node name value
  | setAttributeNs node ns qualified value =>
    Edit.silent <| Edit.setAttributeNs node ns qualified value
  | removeAttribute node name => Edit.silent <| Edit.removeAttribute node name
  | removeAttributeNs node ns localName => Edit.silent <| Edit.removeAttributeNs node ns localName
  | setText node text => Edit.silent <| Edit.setText node text
  | setUrl url => Edit.silent <| Edit.setUrl url
  | setHeader value => Edit.silent <| Edit.setHeader value
  | setMedium medium => Edit.silent <| Edit.setMedium medium
  | register registration => Edit.silent <| Edit.register registration
  | rebuild => Edit.silent <| Edit.rebuild
  | setCascade cascade => Edit.silent <| Edit.setCascade cascade
  | setLoader loader => Edit.silent <| Edit.setLoader loader
  | setState node flags value => Edit.silent <| Edit.setState node flags value
  | addCustomState node name => Edit.silent <| Edit.addCustomState node name
  | removeCustomState node name => Edit.silent <| Edit.removeCustomState node name
  | clearStates node => Edit.silent <| Edit.clearStates node
  | selectSet name => Edit.silent <| Edit.selectSet name
  | enableSet name => Edit.silent <| Edit.enableSet name
  | readSheets => Edit.silent <| Edit.sheetList
  | readStyle node pseudo => Edit.silent <| Edit.style node pseudo

end Operation

namespace Document

/-- The document after an operation, whether it was carried out or refused. -/
def perform (d : Document) (o : Operation) : Document :=
  o.edit.after d

/-- The document after a list of operations. -/
def run (d : Document) (os : List Operation) : Document :=
  os.foldl perform d

/-! ## Queries by text -/

/-- The selectors that a text lists. -/
def selectors (text : String) : Except DocumentError (List Selector) :=
  match Selector.parseList? text with
  | some list => .ok list
  | none => .error .notSelectors

/-- The node has to be an element. -/
def checkElement (d : Document) (n : NodeId) : Except DocumentError Unit :=
  match d.page.tree.data? n with
  | some (.element _) => .ok ()
  | some _ => .error .wrongNodeType
  | none => .error .notFound

/-- The element matches one of the selectors. -/
def elementMatches (d : Document) (n : NodeId) (text : String) : Except DocumentError Bool := do
  d.checkElement n
  return d.page.isMatch n (← selectors text) none

/-- The first descendant that matches. -/
def query? (d : Document) (scope : NodeId) (text : String) :
    Except DocumentError (Option NodeId) := do
  return d.page.query? scope (← selectors text)

/-- The descendants that match, in tree order. -/
def queryAll (d : Document) (scope : NodeId) (text : String) :
    Except DocumentError (List NodeId) := do
  return d.page.queryAll scope (← selectors text)

/-- The nearest of the element and its ancestors that matches. -/
def closest? (d : Document) (n : NodeId) (text : String) :
    Except DocumentError (Option NodeId) := do
  d.checkElement n
  return d.page.closest? n (← selectors text)

end Document

end StyleTree
