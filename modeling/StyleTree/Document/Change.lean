import StyleTree.Page.Basic

/-!
# Changes and what they make stale

What happens to an element, and how much of the style of the document it may change. Which elements
define style sheets is decided here as well, because a change to one of them changes the list.
-/

namespace StyleTree

/-- How much is stale after a change. -/
inductive Staleness where
  /-- Other selectors may match: all computed styles are stale. -/
  | styles
  /-- The list of style sheets may be another one, and so all computed styles are stale. -/
  | sheets
deriving DecidableEq, Repr

/-- What happened to an element. -/
inductive Change where
  /-- An attribute was set or removed. -/
  | ofAttribute (name : Name)
  /-- A child was put in or taken out, or the text of a child was changed. -/
  | children
  | inserted
  | removed
deriving DecidableEq, Repr

/-- How a style sheet gets into a document. -/
inductive SheetOrigin where
  | linked
  | embedded
deriving DecidableEq, Repr, Inhabited

namespace Change

/-- The change sets or removes one of the attributes in no namespace. -/
def isOf (names : List String) : Change → Bool
  | ofAttribute name => names.any name.isPlain
  | _ => false

/-- The element was put in or taken out. -/
def isMove : Change → Bool
  | inserted | removed => true
  | _ => false

end Change

namespace Page

/-! ## Elements that define style sheets -/

/-- The `type` attribute allows the element to define a style sheet. -/
def hasCssType (p : Page) (n : NodeId) : Bool :=
  (p.attr? n "type").all fun value => value == "" || Ascii.eqIgnoreCase (trim value) "text/css"

/-- The relation to the document that a link states, as a list of words, has the word. -/
def hasRel (p : Page) (n : NodeId) (word : String) : Bool :=
  (p.attr? n "rel").any fun rel => (words rel).any (Ascii.eqIgnoreCase · word)

/-- The element, as it is now, defines a style sheet of the origin. -/
def sheetOrigin? (p : Page) (n : NodeId) : Option SheetOrigin :=
  match p.kind n with
  | .link =>
    if p.tree.isConnected n && p.hasRel n "stylesheet" && p.hasAttr n "href" && p.hasCssType n then
      some .linked
    else none
  | .style => if p.tree.isConnected n && p.hasCssType n then some .embedded else none
  | _ => none

/-- The element names the preferred set of style sheets. -/
def isDefaultStyle (p : Page) (n : NodeId) : Bool :=
  p.kind n = .metadata &&
    (p.attr? n "http-equiv").any fun value => Ascii.eqIgnoreCase (trim value) "default-style"

/-- The set that the element names as the preferred one. -/
def namedSet? (p : Page) (n : NodeId) : Option String :=
  if p.isDefaultStyle n then ((p.attr? n "content").map trim).filter (· != "") else none

/-! ## Effects -/

/-- The change, of an element as it is after the change, may change the list of style sheets. -/
def affectsSheets (p : Page) (n : NodeId) (c : Change) : Bool :=
  c.isOf ["style"] ||
    match p.kind n with
    | .link => c.isMove || c.isOf ["href", "rel", "media", "title", "type", "disabled"]
    | .style => c.isMove || c = .children || c.isOf ["media", "title", "type"]
    | .base => c.isMove || c.isOf ["href"]
    | .metadata =>
      c.isOf ["http-equiv"] || (p.isDefaultStyle n && (c.isMove || c.isOf ["content"]))
    | _ => false

/-- What is stale after the change. -/
def staleness (p : Page) (n : NodeId) (c : Change) : Staleness :=
  if p.affectsSheets n c then .sheets else .styles

end Page

end StyleTree
