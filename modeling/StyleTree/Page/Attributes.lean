import StyleTree.Page.Basic
import StyleTree.Selector.Basic
import StyleTree.Text.Language

/-!
# Ids, classes, languages and attribute selectors

How selectors look at attributes. In quirks mode all values are compared without regard to case,
whatever a selector asks for.
-/

namespace StyleTree

/-! ## Comparing values -/

/-- Equality of two texts, of ASCII letters in any case if `caseless` is true. -/
def textEq (caseless : Bool) (s t : String) : Bool :=
  if caseless then Ascii.eqIgnoreCase s t else s == t

namespace AttributeOperator

/-- A non-empty text occurs within the value. -/
def occursIn (part : List Char) : List Char → Bool
  | [] => part.isEmpty
  | c :: cs => part.isPrefixOf (c :: cs) || occursIn part cs

/-- The value is related to the operand; both are lists of characters in their final case. -/
def holds (o : AttributeOperator) (value operand : List Char) : Bool :=
  match o with
  | equal => value == operand
  | beginsWith => !operand.isEmpty && operand.isPrefixOf value
  | endsWith => !operand.isEmpty && operand.isSuffixOf value
  | contains => !operand.isEmpty && occursIn operand value
  | includes => !operand.isEmpty && (pieces Ascii.isWhitespace value).contains operand
  | dashMatch => value == operand || (operand ++ ['-']).isPrefixOf value

end AttributeOperator

namespace CaseRule

/-- Letters are compared in any case on an element that is one of HTML in an HTML document if
`html` is true. -/
def isCaseless (html : Bool) : CaseRule → Bool
  | sensitive | explicitSensitive => false
  | insensitive => true
  | insensitiveOnHtml => html

end CaseRule

namespace AttributeComparison

/-- The value satisfies the comparison. -/
def holds (c : AttributeComparison) (caseless : Bool) (value : String) : Bool :=
  let fold := if caseless then List.map Char.toLower else id
  c.operator.holds (fold value.toList) (fold c.value.toList)

end AttributeComparison

namespace Page

/-! ## Attribute selectors -/

/-- The attribute is one that the test asks for. Names are compared in any case if `html` is
true. -/
def isNamedBy (html : Bool) (t : AttributeTest) (a : Attribute) : Bool :=
  (t.anyNamespace || a.name.ns == Namespace.none) && textEq html a.name.localName t.name

/-- Some attribute of the element passes the test. -/
def passesAttributeTest (p : Page) (n : NodeId) (t : AttributeTest) : Bool :=
  (p.element? n).any fun e =>
    let html := p.isHtmlElement n
    e.attributes.any fun a =>
      isNamedBy html t a &&
        t.comparison.all fun c =>
          c.holds (p.mode.isQuirks || c.case.isCaseless html) a.value

/-! ## Ids and classes -/

/-- The element has the id, which is not empty. -/
def hasId (p : Page) (n : NodeId) (name : String) : Bool :=
  (p.id? n).any fun id => id != "" && textEq p.mode.isQuirks id name

/-- The element has the class. -/
def hasClass (p : Page) (n : NodeId) (caseless : Bool) (name : String) : Bool :=
  (p.attr? n "class").any fun classes =>
    (words classes).any (textEq (caseless || p.mode.isQuirks) · name)

/-! ## Languages -/

/-- The language that the element itself states. -/
def ownLanguage? (p : Page) (n : NodeId) : Option String :=
  (p.element? n).bind fun e =>
    [e.attrIn? Namespace.xml "lang", e.attr? "lang", e.attr? "LANG"].findSome?
      (·.filter (· != ""))

/-- The language that the element or its nearest ancestor states; empty if none does. -/
def language (p : Page) (n : NodeId) : String :=
  ((n :: p.ancestorElements n).findSome? p.ownLanguage?).getD ""

/-- The language of the element is in one of the ranges. -/
def matchesLanguage (p : Page) (n : NodeId) (ranges : List String) : Bool :=
  ranges.any (Language.inRange (p.language n))

end Page

end StyleTree
