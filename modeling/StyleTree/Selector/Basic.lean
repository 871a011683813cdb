import StyleTree.Css.AnPlusB

/-!
# Selectors

The selectors of style rules. A complex selector is read from right to left: its subject is the
rightmost compound, and each combinator leads to the compound on its left. The lists inside
functional pseudo-classes hold complex selectors; only the outermost list can name
pseudo-elements.
-/

namespace StyleTree

inductive Combinator where
  | descendant
  | child
  | nextSibling
  | laterSibling
deriving DecidableEq, Repr, Inhabited

inductive PseudoElement where
  | after
  | before
  | firstLetter
  | firstLine
  | marker
  | placeholder
  | selection
deriving DecidableEq, Repr, Inhabited

/-- The argument of `:dir()`. -/
inductive DirArgument where
  | ltr
  | rtl
  /-- Any other identifier; no element has it. -/
  | other (name : String)
deriving DecidableEq, Repr, Inhabited

/-- A pseudo-class that looks at more than the structure of the tree. -/
inductive PseudoClass where
  | active
  | anyLink
  | blank
  | checked
  | customState (name : String)
  | default
  | dir (argument : DirArgument)
  | disabled
  | enabled
  | focus
  | focusVisible
  | focusWithin
  | hover
  | indeterminate
  | lang (ranges : List String)
  | link
  | optional
  | placeholderShown
  | readOnly
  | readWrite
  | required
  | target
  | visited
deriving DecidableEq, Repr, Inhabited

inductive AttributeOperator where
  /-- `=` -/
  | equal
  /-- `~=`: one of the words -/
  | includes
  /-- `|=`: the value, or the value and a hyphen after it -/
  | dashMatch
  /-- `^=` -/
  | beginsWith
  /-- `$=` -/
  | endsWith
  /-- `*=` -/
  | contains
deriving DecidableEq, Repr, Inhabited

/-- How an attribute selector compares values. -/
inductive CaseRule where
  | sensitive
  /-- The flag `s` is written. -/
  | explicitSensitive
  /-- The flag `i` is written. -/
  | insensitive
  /-- The attribute is one whose values have no case on elements of HTML documents. -/
  | insensitiveOnHtml
deriving DecidableEq, Repr, Inhabited

structure AttributeComparison where
  operator : AttributeOperator
  value : String
  case : CaseRule
deriving DecidableEq, Repr, Inhabited

/-- An attribute selector. -/
structure AttributeTest where
  /-- `*|` is written: the attribute may be in any namespace, else it is in none. -/
  anyNamespace : Bool
  name : String
  /-- Absent if the attribute need only be there. -/
  comparison : Option AttributeComparison
deriving DecidableEq, Repr, Inhabited

/-- The end of the sibling list from which a position counts. -/
inductive NthSide where
  | first
  | last
  /-- From both ends, as `:only-child` does. -/
  | only
deriving DecidableEq, Repr, Inhabited

/-- A test of the position among siblings. -/
structure NthTest where
  side : NthSide
  /-- Only siblings of the same type count. -/
  ofType : Bool
  formula : AnPlusB
  /-- The formula is written, and not implied by a name such as `:first-child`. -/
  written : Bool
deriving DecidableEq, Repr, Inhabited

mutual

inductive Simple where
  | localName (name : String)
  | universal
  /-- The prefix `|`: the element is in no namespace. -/
  | noNamespace
  | id (name : String)
  | className (name : String)
  | attribute (test : AttributeTest)
  | root
  | empty
  | scope
  | nth (test : NthTest)
  | nthOf (test : NthTest) (list : List Complex)
  | negation (list : List Complex)
  | isAny (list : List Complex)
  | whereAny (list : List Complex)
  | has (list : List Complex)
  /-- The host of a shadow tree, if it matches the compound. -/
  | host (simples : List Simple)
  | pseudoClass (name : PseudoClass)
  /-- The text of a selector that could not be read, kept where lists forgive that. -/
  | invalid (text : String)

/-- The simple selectors of a compound apply to one element. -/
inductive Complex where
  /-- The leftmost compound. -/
  | compound (simples : List Simple)
  /-- A compound, the combinator on its left and all that precedes it. -/
  | step (simples : List Simple) (combinator : Combinator) (left : Complex)
  /-- The element that a relative selector starts from. -/
  | anchor

end

instance : Inhabited Simple := ⟨.universal⟩
instance : Inhabited Complex := ⟨.anchor⟩

/-- A selector of an outermost list. -/
structure Selector where
  complex : Complex
  /-- The pseudo-element it selects, with the simple selectors written after that. -/
  pseudo : Option (PseudoElement × List Simple)
deriving Inhabited

namespace Selector

def pseudoElement (s : Selector) : Option PseudoElement :=
  s.pseudo.map (·.1)

end Selector

/-! ## Names -/

namespace PseudoElement

def name : PseudoElement → String
  | after => "after"
  | before => "before"
  | firstLetter => "first-letter"
  | firstLine => "first-line"
  | marker => "marker"
  | placeholder => "placeholder"
  | selection => "selection"

def all : List PseudoElement :=
  [after, before, firstLetter, firstLine, marker, placeholder, selection]

/-- The pseudo-element with the name, in any case. -/
def ofName? (s : String) : Option PseudoElement :=
  all.find? (Ascii.eqIgnoreCase ·.name s)

def text (p : PseudoElement) : String :=
  "::" ++ p.name

/-- Pseudo-elements that a single colon may introduce. -/
def isLegacyName (s : String) : Bool :=
  ["before", "after", "first-line", "first-letter"].any (Ascii.eqIgnoreCase s)

end PseudoElement

namespace PseudoClass

/-- The pseudo-classes without an argument, by name. -/
def simple : List (String × PseudoClass) :=
  [("active", active), ("any-link", anyLink), ("blank", blank), ("checked", checked),
    ("default", default), ("disabled", disabled), ("enabled", enabled), ("focus", focus),
    ("focus-visible", focusVisible), ("focus-within", focusWithin), ("hover", hover),
    ("indeterminate", indeterminate), ("link", link), ("optional", optional),
    ("placeholder-shown", placeholderShown), ("read-only", readOnly), ("read-write", readWrite),
    ("required", required), ("target", target), ("visited", visited)]

/-- The pseudo-class with the name, in any case. -/
def ofName? (s : String) : Option PseudoClass :=
  (simple.find? fun p => Ascii.eqIgnoreCase p.1 s).map (·.2)

/-- `:active` or `:hover`. -/
def isActiveOrHover : PseudoClass → Bool
  | active | hover => true
  | _ => false

end PseudoClass

namespace DirArgument

def ofName (s : String) : DirArgument :=
  if Ascii.eqIgnoreCase s "ltr" then ltr
  else if Ascii.eqIgnoreCase s "rtl" then rtl
  else other s

end DirArgument

namespace NthTest

/-- `:first-child` and its kin. -/
def implied (side : NthSide) (ofType : Bool) : NthTest :=
  ⟨side, ofType, ⟨0, 1⟩, false⟩

end NthTest

end StyleTree
