import StyleTree.Tree.Name

/-!
# Kinds of elements

The HTML elements that mean something for style, named by what they are. An element of any other
name or namespace is of the kind `other`.
-/

namespace StyleTree

inductive ElementKind where
  | anchor
  | area
  | base
  | bdi
  | body
  | button
  | fieldSet
  | font
  | form
  | img
  | input
  | legend
  | link
  | metadata
  | optGroup
  | option
  | progress
  | script
  | select
  | style
  | table
  | tableCell
  | tableRow
  | tableSection
  | textArea
  | other
deriving DecidableEq, Repr, Inhabited

namespace ElementKind

/-- The kind for a local name, of any case. -/
def ofLocalName (s : String) : ElementKind :=
  match Ascii.lower s with
  | "a" => anchor
  | "area" => area
  | "base" => base
  | "bdi" => bdi
  | "body" => body
  | "button" => button
  | "fieldset" => fieldSet
  | "font" => font
  | "form" => form
  | "img" => img
  | "input" => input
  | "legend" => legend
  | "link" => link
  | "meta" => metadata
  | "optgroup" => optGroup
  | "option" => option
  | "progress" => progress
  | "script" => script
  | "select" => select
  | "style" => style
  | "table" => table
  | "td" | "th" => tableCell
  | "tr" => tableRow
  | "tbody" | "thead" | "tfoot" => tableSection
  | "textarea" => textArea
  | _ => other

/-- The kind for a name; names without a namespace count as HTML. -/
def ofName (ns localName : String) : ElementKind :=
  if ns = Namespace.html ∨ ns = Namespace.none then ofLocalName localName else other

/-- Elements of the kind can be disabled. -/
def isDisableable : ElementKind → Bool
  | button | fieldSet | input | optGroup | option | select | textArea => true
  | _ => false

/-- Elements of the kind are listed among the controls of their form, and can name it. -/
def isListed : ElementKind → Bool
  | button | fieldSet | input | select | textArea => true
  | _ => false

end ElementKind

end StyleTree
