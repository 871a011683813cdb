import StyleTree.Document.Change
import StyleTree.Sheet.Loader
import StyleTree.Sheet.Rule

/-!
# Style sheets of a document

The list of style sheets: all linked ones in tree order, then all embedded ones. Sheets with a
title belong to the set of that name; of all sets the selected one is enabled, and those that were
enabled besides. What was loaded is kept by the element that asked for it until that element
changes or the references in it may mean something else.
-/

namespace StyleTree

/-- A style sheet that was read, and the URL that it was loaded from. -/
structure LoadedSheet where
  contents : Stylesheet
  href : Option Url
deriving Inhabited

/-- An entry of the list of style sheets. -/
structure ListedSheet where
  owner : NodeId
  origin : SheetOrigin
  /-- The title, which is not empty. -/
  title : Option String
  alternate : Bool
  media : MediaList
  href : Option Url
  contents : Stylesheet
  disabled : Bool
deriving Inhabited

namespace ListedSheet

/-- No selection of a set enables or disables the sheet. -/
def isPersistent (s : ListedSheet) : Bool :=
  s.title.isNone

/-- The sheet takes part in the cascade for the medium. -/
def applies (s : ListedSheet) (medium : String) : Bool :=
  !s.disabled && s.media.holds medium

end ListedSheet

structure SheetList where
  sheets : List ListedSheet
  /-- The titles of the sheets, each once, in the order of the list. -/
  sets : List String
  /-- The set that is enabled; the empty text disables every sheet with a title. -/
  selected : Option String
deriving Inhabited

/-- What a document keeps about its style sheets. -/
structure SheetStore where
  /-- The links that define a sheet, in tree order. -/
  linked : List NodeId
  /-- The style elements that define a sheet, in tree order. -/
  embedded : List NodeId
  /-- The set that was selected last. -/
  lastSelected : Option String
  /-- The sets that were enabled besides since then. -/
  additional : List String
  /-- The preferred set where no element names one. -/
  header : Option String
  /-- The list of style sheets, unless it is stale. -/
  list : Option SheetList
  /-- What was loaded for the elements; nothing if loading failed. -/
  contents : List (NodeId × Option LoadedSheet)
  /-- What was asked of the loader so far, and for which element. -/
  requests : List (NodeId × Url)

namespace SheetStore

def empty : SheetStore :=
  ⟨[], [], none, [], none, none, [], []⟩

instance : Inhabited SheetStore := ⟨empty⟩

/-! ## Elements that define sheets -/

def definers (s : SheetStore) : SheetOrigin → List NodeId
  | .linked => s.linked
  | .embedded => s.embedded

def withDefiners (s : SheetStore) (origin : SheetOrigin) (list : List NodeId) : SheetStore :=
  match origin with
  | .linked => { s with linked := list }
  | .embedded => { s with embedded := list }

def strike (s : SheetStore) (n : NodeId) : SheetStore :=
  { s with linked := s.linked.filter (· != n), embedded := s.embedded.filter (· != n) }

/-- How many elements of the list come before `n`, of which `low` at least and `high` at most do. The
list is searched by halves, so it has to be in tree order. -/
def placeBetween (t : Tree) (n : NodeId) (list : List NodeId) (low high : Nat) : Nat :=
  if _ : low < high then
    let middle := (low + high) / 2
    match list[middle]? with
    | some m =>
      if t.compare m n = .lt then placeBetween t n list (middle + 1) high
      else placeBetween t n list low middle
    | none => low
  else low
termination_by high - low

/-- The list with `n` in its place in tree order. -/
def insertInOrder (t : Tree) (n : NodeId) (list : List NodeId) : List NodeId :=
  list.insertIdx (placeBetween t n list 0 list.length) n

/-- The store after the element came to define a sheet of the origin, or none. -/
def enlist (s : SheetStore) (t : Tree) (n : NodeId) : Option SheetOrigin → SheetStore
  | some origin =>
    if (s.definers origin).contains n then s
    else
      let s := s.strike n
      s.withDefiners origin (insertInOrder t n (s.definers origin))
  | none => s.strike n

/-! ## Staleness -/

def forget (s : SheetStore) (n : NodeId) : SheetStore :=
  { s with contents := s.contents.filter (·.1 != n) }

def forgetAll (s : SheetStore) : SheetStore :=
  { s with contents := [] }

def dropList (s : SheetStore) : SheetStore :=
  { s with list := none }

/-! ## Selection -/

def select (s : SheetStore) (name : String) : SheetStore :=
  { s with lastSelected := some name, additional := [] }

def enable (s : SheetStore) (name : String) : SheetStore :=
  if s.additional.contains name then s else { s with additional := s.additional ++ [name] }

/-! ## Loading -/

/-- The sheet that the element defines, and the URL that the loader was asked for. -/
def load (p : Page) (loader : Loader) (n : NodeId) : SheetOrigin → Option LoadedSheet × Option Url
  | .embedded => (some ⟨Stylesheet.parse p.baseUrl (p.tree.childText n), none⟩, none)
  | .linked =>
    match (p.attr? n "href").bind (Page.resolve? p.baseUrl) with
    | none => (none, none)
    | some url =>
      match loader url with
      | .ok text => (some ⟨Stylesheet.parse (some url) text, some url⟩, some url)
      | .error _ => (none, some url)

/-- The sheet that the element defines, loaded only if nothing is kept for the element. -/
def obtain? (s : SheetStore) (p : Page) (loader : Loader) (n : NodeId) (origin : SheetOrigin) :
    Option LoadedSheet × SheetStore :=
  match s.contents.find? (·.1 == n) with
  | some (_, loaded) => (loaded, s)
  | none =>
    let (loaded, request) := load p loader n origin
    (loaded, { s with
      contents := (n, loaded) :: s.contents
      requests := s.requests ++ request.toList.map (n, ·) })

/-! ## The list -/

/-- The non-empty title of the element. -/
def titleOf (p : Page) (n : NodeId) : Option String :=
  (p.attr? n "title").filter (· != "")

/-- The entry for an element that defines the sheet. -/
def listing (p : Page) (origin : SheetOrigin) (n : NodeId) (sheet : LoadedSheet) : ListedSheet where
  owner := n
  origin
  title := titleOf p n
  alternate := origin = .linked && p.hasRel n "alternate"
  media := MediaList.parse ((p.attr? n "media").getD "")
  href := sheet.href
  contents := sheet.contents
  disabled := origin = .linked && p.hasAttr n "disabled"

/-- The element can have an entry. Alternates without a title belong to no set and are left out. -/
def isListed (p : Page) (origin : SheetOrigin) (n : NodeId) : Bool :=
  p.isElement n && !(origin = .linked && p.hasRel n "alternate" && (titleOf p n).isNone)

/-- The entry for an element that defines a sheet. What cannot be loaded is left out. -/
def entry? (s : SheetStore) (p : Page) (loader : Loader) (origin : SheetOrigin) (n : NodeId) :
    Option ListedSheet × SheetStore :=
  if isListed p origin n then
    let (loaded, s) := s.obtain? p loader n origin
    (loaded.map (listing p origin n), s)
  else (none, s)

/-- The entries for a list of elements. -/
def entries (p : Page) (loader : Loader) (origin : SheetOrigin) :
    SheetStore → List NodeId → List ListedSheet × SheetStore
  | s, [] => ([], s)
  | s, n :: rest =>
    let (sheet, s) := s.entry? p loader origin n
    let (sheets, s) := entries p loader origin s rest
    (sheet.toList ++ sheets, s)

/-- The elements of a list, each once, in the order of their first occurrence. -/
def distinct (xs : List String) : List String :=
  xs.foldl (fun seen x => if seen.contains x then seen else seen ++ [x]) []

/-- The set that the last element names which names one, or the header. -/
def preferred? (s : SheetStore) (p : Page) : Option String :=
  (p.elements.filterMap p.namedSet?).getLast?.orElse fun _ =>
    (s.header.map trim).filter (· != "")

/-- The set to enable: the one that was selected, as long as there is one of that name; the
preferred one; the first one that is not alternate. -/
def choose? (s : SheetStore) (p : Page) (sheets : List ListedSheet) (sets : List String) :
    Option String :=
  (s.lastSelected.filter fun name => name == "" || sets.contains name).orElse fun _ =>
    ((s.preferred? p).filter sets.contains).orElse fun _ =>
      (sheets.find? fun sheet => !sheet.alternate && sheet.title.isSome).bind (·.title)

/-- The sheet, disabled if its set is not enabled. -/
def settle (s : SheetStore) (selected : Option String) (sheet : ListedSheet) : ListedSheet :=
  match sheet.title with
  | some title =>
    if selected == some title || s.additional.contains title then sheet
    else { sheet with disabled := true }
  | none => sheet

/-- The list of the sheets, of which those are enabled whose sets are. -/
def assemble (s : SheetStore) (p : Page) (sheets : List ListedSheet) : SheetList :=
  let sets := distinct (sheets.filterMap (·.title))
  let selected := s.choose? p sheets sets
  ⟨sheets.map (s.settle selected), sets, selected⟩

/-- The list of style sheets, and the store with what was loaded for it. -/
def build (s : SheetStore) (p : Page) (loader : Loader) : SheetList × SheetStore :=
  let (linked, s) := entries p loader .linked s s.linked
  let (embedded, s) := entries p loader .embedded s s.embedded
  (s.assemble p (linked ++ embedded), s)

end SheetStore

end StyleTree
