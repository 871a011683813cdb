import StyleTree.Page.Attributes
import StyleTree.Page.Direction
import StyleTree.Page.Structure
import StyleTree.Selector.Specificity

/-!
# Matching

Which elements a selector selects. A complex selector is matched from its subject to the left. At
each combinator the candidates are tried one after another, nearest first; a candidate that fails
says how far back the search has to go, so that no choice is undone that could not help.
-/

namespace StyleTree

/-! ## Search -/

/-- How the search for the left part of a complex selector ends. -/
inductive SearchResult where
  | found
  /-- No other choice can help. -/
  | nowhere
  /-- Only another ancestor can help. -/
  | fromDescendant
  /-- Another earlier sibling or another ancestor can help. -/
  | fromLaterSibling
deriving DecidableEq, Repr, Inhabited

namespace SearchResult

def isFound : SearchResult → Bool
  | found => true
  | _ => false

/-- The result when no candidate is left at a combinator. -/
def exhausted : Combinator → SearchResult
  | .nextSibling | .laterSibling => fromDescendant
  | .child | .descendant => nowhere

/-- The first result that ends the search among the candidates at a combinator. -/
def search (c : Combinator) (attempt : NodeId → SearchResult) : List NodeId → SearchResult
  | [] => exhausted c
  | n :: rest =>
    match attempt n with
    | found => found
    | nowhere => nowhere
    | fromDescendant =>
      match c with
      | .nextSibling | .laterSibling | .child => fromDescendant
      | .descendant => search c attempt rest
    | fromLaterSibling =>
      match c with
      | .nextSibling => fromLaterSibling
      | .child => fromDescendant
      | .laterSibling | .descendant => search c attempt rest

end SearchResult

/-! ## Positions -/

namespace NthTest

/-- The element has a position that the test selects. `counts` says which siblings count. -/
def holdsFrom (p : Page) (t : NthTest) (fromEnd : Bool) (counts : NodeId → Bool) (n : NodeId) :
    Bool :=
  let others := if fromEnd then p.followingElements n else p.precedingElements n
  t.formula.admits (1 + others.countP counts)

/-- The element passes the test among the siblings that count. -/
def holds (p : Page) (t : NthTest) (counts : NodeId → Bool) (n : NodeId) : Bool :=
  match t.side with
  | .first => t.holdsFrom p false counts n
  | .last => t.holdsFrom p true counts n
  | .only => t.holdsFrom p false counts n && t.holdsFrom p true counts n

/-- The siblings that count for a test without a list of selectors. -/
def counts (p : Page) (t : NthTest) (n m : NodeId) : Bool :=
  !t.ofType || p.isSameType n m

end NthTest

/-! ## Simple selectors -/

namespace DirArgument

def holds (a : DirArgument) (d : TextDirection) : Bool :=
  match a, d with
  | ltr, .ltr | rtl, .rtl => true
  | _, _ => false

end DirArgument

namespace PseudoClass

def holds (p : Page) (n : NodeId) : PseudoClass → Bool
  | active => p.hasState n .active
  | anyLink => p.isLink n
  | blank => p.isBlank n
  | checked => p.isChecked n
  | customState name => (p.element? n).any (·.customStates.contains name)
  | default => p.isDefault n
  | dir argument => argument.holds (p.direction n)
  | disabled => p.isDisabled n
  | enabled => p.isEnabled n
  | focus => p.hasState n .focus
  | focusVisible => p.hasState n .focusVisible
  | focusWithin => p.hasFocusWithin n
  | hover => p.hasState n .hover
  | indeterminate => p.isIndeterminate n
  | lang ranges => p.matchesLanguage n ranges
  | link => p.isLink n && !p.hasState n .visited
  | optional => p.isOptional n
  | placeholderShown => p.showsPlaceholder n
  | readOnly => !p.isReadWrite n
  | readWrite => p.isReadWrite n
  | required => p.isRequired n
  | target => p.isTarget n
  | visited => p.isLink n && p.hasState n .visited

end PseudoClass

namespace Simple

/-- The selector is `:hover` or `:active`. -/
def isActiveOrHover : Simple → Bool
  | pseudoClass c => c.isActiveOrHover
  | _ => false

end Simple

/-- In quirks mode, nothing but a link can match a compound that says nothing but `:hover` and
`:active`, unless the compound is in an argument of a pseudo-class. -/
def isBarredHover (p : Page) (nested : Bool) (simples : List Simple) (n : NodeId) : Bool :=
  p.mode.isQuirks && !nested && !p.isLink n && !simples.isEmpty &&
    simples.all (·.isActiveOrHover)

/-! ## Complex selectors -/

/-- The elements that a combinator leads to, nearest first. -/
def Combinator.candidates (p : Page) (n : NodeId) : Combinator → List NodeId
  | .descendant => p.ancestorElements n
  | .child => (p.parentElement? n).toList
  | .laterSibling => p.precedingElements n
  | .nextSibling => (p.precedingElements n).head?.toList

/-- The combinator that a relative selector starts with. -/
def Complex.lead : Complex → Combinator
  | .step _ c .anchor => c
  | .step _ _ left => left.lead
  | .compound _ | .anchor => .descendant

/-- The elements that a relative selector with the leading combinator can select from the
element. -/
def Combinator.reach (p : Page) (n : NodeId) : Combinator → List NodeId
  | .descendant | .child => p.descendantElements n
  | .nextSibling | .laterSibling =>
    (p.followingElements n).flatMap fun m => m :: p.descendantElements m

mutual

/-- The element matches the simple selector. `anchor` is the element that a relative selector
starts from. -/
def Simple.holds (p : Page) (anchor : Option NodeId) (n : NodeId) : Simple → Bool
  | .localName name =>
    (p.element? n).any fun e => textEq (p.isHtmlElement n) e.name.localName name
  | .universal => true
  | .noNamespace => (p.element? n).any (·.name.ns == Namespace.none)
  | .id name => p.hasId n name
  | .className name => p.hasClass n false name
  | .attribute test => p.passesAttributeTest n test
  | .root | .scope => p.isRoot n
  | .empty => p.isEmpty n
  | .nth test => test.holds p (test.counts p n) n
  | .nthOf test list =>
    someHolds p true anchor n list && test.holds p (fun m => someHolds p true anchor m list) n
  | .negation list => !someHolds p true anchor n list
  | .isAny list | .whereAny list => someHolds p true anchor n list
  | .has list => someReached p n list
  | .pseudoClass c => c.holds p n
  -- There are no shadow trees, so no element is a host.
  | .host _ | .invalid _ => false

/-- The element matches each of the simple selectors. -/
def allHold (p : Page) (anchor : Option NodeId) (n : NodeId) : List Simple → Bool
  | [] => true
  | s :: rest => s.holds p anchor n && allHold p anchor n rest

/-- How the search for elements that make `n` match the complex selector ends. `nested` is true
inside the argument of a pseudo-class. -/
def Complex.search (p : Page) (nested : Bool) (anchor : Option NodeId) (n : NodeId) :
    Complex → SearchResult
  | .compound simples =>
    if allHold p anchor n simples && !isBarredHover p nested simples n then .found
    else .fromLaterSibling
  | .step simples c left =>
    if allHold p anchor n simples && !isBarredHover p nested simples n then
      .search c (fun m => left.search p nested anchor m) (c.candidates p n)
    else .fromLaterSibling
  | .anchor => if anchor = some n then .found else .fromLaterSibling

/-- The element matches one of the complex selectors. -/
def someHolds (p : Page) (nested : Bool) (anchor : Option NodeId) (n : NodeId) :
    List Complex → Bool
  | [] => false
  | c :: rest => (c.search p nested anchor n).isFound || someHolds p nested anchor n rest

/-- One of the relative selectors selects an element from `n`. -/
def someReached (p : Page) (n : NodeId) : List Complex → Bool
  | [] => false
  | c :: rest =>
    (c.lead.reach p n).any (fun m => (c.search p true (some n) m).isFound) || someReached p n rest

end

/-! ## Selectors -/

namespace Complex

/-- The element matches the complex selector. -/
def holds (p : Page) (n : NodeId) (c : Complex) : Bool :=
  (c.search p false none n).isFound

end Complex

namespace Selector

/-- The element matches the selector, or its pseudo-element does if `pseudo` names one. A selector
is for one pseudo-element, or for none. -/
def holds (p : Page) (pseudo : Option PseudoElement) (n : NodeId) (s : Selector) : Bool :=
  s.pseudoElement == pseudo && s.complex.holds p n &&
    s.pseudo.all fun q => allHold p none n q.2

end Selector

namespace Page

/-- The index of the first selector of the list that matches. -/
def matchedIndex? (p : Page) (n : NodeId) (list : List Selector) (pseudo : Option PseudoElement) :
    Option Nat :=
  if p.isElement n then list.findIdx? (·.holds p pseudo n) else none

/-- The element, or its pseudo-element, matches a selector of the list. -/
def isMatch (p : Page) (n : NodeId) (list : List Selector) (pseudo : Option PseudoElement) : Bool :=
  (p.matchedIndex? n list pseudo).isSome

/-- The specificities of the selectors of the list that match, packed. -/
def matchedSpecificities (p : Page) (n : NodeId) (list : List Selector)
    (pseudo : Option PseudoElement) : List Nat :=
  if p.isElement n then (list.filter (·.holds p pseudo n)).map (·.specificity) else []

/-- The largest specificity among the selectors of the list that match. -/
def matchingSpecificity? (p : Page) (n : NodeId) (list : List Selector)
    (pseudo : Option PseudoElement) : Option Nat :=
  (p.matchedSpecificities n list pseudo).max?

/-! ## Queries -/

/-- The descendants of the node that match, in tree order. -/
def queryAll (p : Page) (scope : NodeId) (list : List Selector) : List NodeId :=
  (p.tree.descendants scope).filter fun n => p.isMatch n list none

/-- The first descendant of the node that matches. -/
def query? (p : Page) (scope : NodeId) (list : List Selector) : Option NodeId :=
  (p.tree.descendants scope).find? fun n => p.isMatch n list none

/-- The nearest of the node and its ancestors that matches. -/
def closest? (p : Page) (n : NodeId) (list : List Selector) : Option NodeId :=
  (p.tree.inclusiveAncestors n).find? fun m => p.isMatch m list none

end Page

end StyleTree
