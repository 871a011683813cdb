import StyleTree.Document.Sheets
import StyleTree.Document.Style
import StyleTree.Page.Hints

/-!
# Documents

A page together with its style sheets and styles. Styles are computed when they are read, and kept
until something changes that may concern them.
-/

namespace StyleTree

/-- A computed style as an object: two reads that give the same object did not compute twice. -/
structure StyleObject where
  /-- Objects are numbered in the order in which they are made. -/
  id : Nat
  /-- The object that the style inherits from. -/
  parentId : Option Nat
  style : ComputedStyle
deriving Inhabited

/-- Whether the list of style sheets was built since it last became stale. -/
inductive CacheState where
  | clean
  | dirty
deriving DecidableEq, Repr, Inhabited

/-- The computed styles that a document keeps. -/
structure StyleCache where
  /-- Styles are kept at all. -/
  enabled : Bool
  /-- Counts the changes. Zero is the serial of a document that nobody has changed or read. -/
  serial : Nat
  state : CacheState
  /-- How many styles were computed so far. -/
  computed : Nat
  /-- The styles that are kept, of which only those of the current serial count. -/
  styles : List ((NodeId × Option PseudoElement) × StyleObject)
deriving Inhabited

structure Document where
  page : Page
  parserFlags : ParserFlags
  /-- The medium that style sheets are chosen for. -/
  medium : String
  /-- The registered properties, in the order of registration. -/
  registered : List Registration
  sheets : SheetStore
  cache : StyleCache
  loader : Loader
  cascade : Cascade

namespace StyleCache

/-- The cache before the first read or change. -/
def fresh (enabled : Bool) : StyleCache :=
  ⟨enabled, 0, .dirty, 0, []⟩

/-- The cache with a serial other than zero. -/
def started (c : StyleCache) : StyleCache :=
  if c.serial = 0 then { c with serial := 1 } else c

/-- The cache after a change that makes so much stale. -/
def stale (c : StyleCache) : Staleness → StyleCache
  | .styles => { c with serial := c.serial + 1 }
  | .sheets => { c with serial := c.serial + 1, state := .dirty }

/-- The cache after the list of style sheets was built. -/
def markClean (c : StyleCache) : StyleCache :=
  { c with state := .clean }

def lookup? (c : StyleCache) (n : NodeId) (pseudo : Option PseudoElement) : Option StyleObject :=
  ((c.styles.find? (·.1 == (n, pseudo))).map (·.2)).filter (·.style.serial == c.serial)

/-- The object for a style that was just computed, and the cache that keeps it. -/
def add (c : StyleCache) (n : NodeId) (pseudo : Option PseudoElement) (parentId : Option Nat)
    (style : ComputedStyle) : StyleObject × StyleCache :=
  let object : StyleObject := ⟨c.computed, parentId, style⟩
  let styles :=
    if c.enabled then
      ((n, pseudo), object) :: c.styles.filter (·.1 != (n, pseudo))
    else c.styles
  (object, { c with computed := c.computed + 1, styles })

/-- The cache without the styles of the node. -/
def forget (c : StyleCache) (n : NodeId) : StyleCache :=
  { c with styles := c.styles.filter (·.1.1 != n) }

end StyleCache

namespace Document

/-- A document without content, but for a doctype of the given name. -/
def create (doctype : Option String) (o : Options) : Document :=
  let tree := match doctype with
    | some name => (Tree.empty.push (.doctype name "" "")).link Tree.root Tree.empty.fresh none
    | none => Tree.empty
  {
    page := {
      tree
      html := o.html
      mode := o.mode.getD (if doctype.isSome then .strict else .quirks)
      url := o.url
    }
    parserFlags := o.parserFlags
    medium := o.medium
    registered := []
    sheets := .empty
    cache := .fresh o.styleCache
    loader := .dataUrls
    cascade := .initialValues
  }

instance : Inhabited Document := ⟨create none .default⟩

/-- Counts the changes of the document. -/
def serial (d : Document) : Nat :=
  d.cache.serial

/-- The list of style sheets is up to date. -/
def isClean (d : Document) : Bool :=
  d.cache.state = .clean

/-! ## Views of the tree -/

/-- The doctype. -/
def doctype? (d : Document) : Option NodeId :=
  (d.page.tree.children Tree.root).find? fun n =>
    match d.page.tree.data? n with
    | some (.doctype ..) => true
    | _ => false

/-- The element below the document node. -/
def documentElement? (d : Document) : Option NodeId :=
  (d.page.tree.children Tree.root).find? d.page.isElement

/-! ## Staleness -/

/-- The document after a change that makes so much stale. -/
def stale (d : Document) (s : Staleness) : Document :=
  { d with
    cache := d.cache.stale s
    sheets := match s with
      | .styles => d.sheets
      | .sheets => d.sheets.dropList }

/-- The document after the change has been made known to its style sheets and styles. Changes of
nodes that are no elements do not count. -/
def notify (c : Change) (d : Document) (n : NodeId) : Document :=
  if d.page.isElement n then
    let staleness := d.page.staleness n c
    let sheets :=
      match staleness, d.page.kind n with
      | .sheets, .link | .sheets, .style =>
        (d.sheets.forget n).enlist d.page.tree n (d.page.sheetOrigin? n)
      | .sheets, .base => d.sheets.forgetAll
      | _, _ => d.sheets
    { d with sheets }.stale staleness
  else d

/-! ## Style sheets -/

/-- The list of style sheets, built if it is stale, and the document that keeps it. -/
def readSheets (d : Document) : SheetList × Document :=
  match d.sheets.list with
  | some list => (list, d)
  | none =>
    let (list, sheets) := d.sheets.build d.page d.loader
    (list, { d with sheets := { sheets with list := some list }, cache := d.cache.markClean })

/-- The contents of the sheets that apply for the medium of the document. -/
def applicable (d : Document) (list : SheetList) : List Stylesheet :=
  (list.sheets.filter (·.applies d.medium)).map (·.contents)

/-- The set of style sheets that the document prefers. -/
def preferredSet? (d : Document) : Option String :=
  d.sheets.preferred? d.page

/-! ## Styles -/

/-- The declarations of the style attribute, unless the flags say to ignore it. Pseudo-elements
have none. -/
def styleAttribute (d : Document) (n : NodeId) (pseudo : Option PseudoElement) :
    List Declaration :=
  if pseudo.isSome || d.parserFlags.ignoresStyleAttributes then []
  else (d.page.attr? n "style").elim [] Declaration.parse

/-- The presentational hints, unless the flags say to ignore them. Pseudo-elements have none. -/
def hints (d : Document) (n : NodeId) (pseudo : Option PseudoElement) : List Declaration :=
  if pseudo.isSome || d.parserFlags.ignoresHints then [] else d.page.hints n

/-- What the cascade looks at. -/
def cascadeInputs (d : Document) (list : SheetList) (n : NodeId) (pseudo : Option PseudoElement)
    (parent : Option ComputedStyle) : CascadeInputs where
  page := d.page
  node := n
  pseudo := pseudo
  parent := parent
  sheets := d.applicable list
  styleAttribute := d.styleAttribute n pseudo
  hints := d.hints n pseudo
  registered := d.registered
  medium := d.medium

/-- The style of an element or pseudo-element, computed from that of its parent, and the document
that keeps it. -/
def compute (d : Document) (n : NodeId) (pseudo : Option PseudoElement)
    (parent : Option StyleObject) : StyleObject × Document :=
  let (list, d) := d.readSheets
  let inherited := parent.map (·.style)
  let values := d.cascade (d.cascadeInputs list n pseudo inherited)
  let (object, cache) :=
    d.cache.add n pseudo (parent.map (·.id)) (.mk values inherited pseudo d.cache.serial)
  (object, { d with cache })

/-- The style of the first element of a list in which every element is followed by its parent. -/
def resolveChain (d : Document) : List NodeId → Option StyleObject × Document
  | [] => (none, d)
  | n :: ancestors =>
    match d.cache.lookup? n none with
    | some object => (some object, d)
    | none =>
      let (parent, d) := d.resolveChain ancestors
      let (object, d) := d.compute n none parent
      (some object, d)

/-- The style of the element, or of its pseudo-element, and the document that keeps it. None if
the node is no element. -/
def readStyle (d : Document) (n : NodeId) (pseudo : Option PseudoElement) :
    Option StyleObject × Document :=
  if d.page.isElement n then
    let d := { d with cache := d.cache.started }
    let chain := n :: d.page.ancestorElements n
    match pseudo with
    | none => d.resolveChain chain
    | some q =>
      match d.cache.lookup? n (some q) with
      | some object => (some object, d)
      | none =>
        let (parent, d) := d.resolveChain chain
        let (object, d) := d.compute n (some q) parent
        (some object, d)
  else (none, d)

end Document

end StyleTree
