import StyleTree.Page.Forms
import StyleTree.Selector.Basic

/-!
# Labels

How elements are shown to a reader, and what they are. Kinds of elements, types of inputs and
pseudo-elements are single words; an element is its name, its id and its node.
-/

namespace StyleTree

/-- The kind as a word. -/
def ElementKind.label : ElementKind → String
  | anchor => "Anchor"
  | area => "Area"
  | base => "Base"
  | bdi => "Bdi"
  | body => "Body"
  | button => "Button"
  | fieldSet => "FieldSet"
  | font => "Font"
  | form => "Form"
  | img => "Img"
  | input => "Input"
  | legend => "Legend"
  | link => "Link"
  | metadata => "Meta"
  | optGroup => "OptGroup"
  | option => "Option"
  | progress => "Progress"
  | script => "Script"
  | select => "Select"
  | style => "Style"
  | table => "Table"
  | tableCell => "TableCell"
  | tableRow => "TableRow"
  | tableSection => "TableSection"
  | textArea => "TextArea"
  | other => "Other"

/-- The type as a word. -/
def InputType.label (t : InputType) : String :=
  ((table.find? (·.1 == t)).map (·.2.2)).getD ""

/-- The pseudo-element as a word. -/
def PseudoElement.label : PseudoElement → String
  | after => "After"
  | before => "Before"
  | firstLetter => "FirstLetter"
  | firstLine => "FirstLine"
  | marker => "Marker"
  | placeholder => "Placeholder"
  | selection => "Selection"

/-- The element, or its pseudo-element, as a short text. -/
def Page.label (p : Page) (n : NodeId) (pseudo : Option PseudoElement) : String :=
  "<" ++ (p.element? n).elim "" (·.name.localName) ++ (p.id? n).elim "" (" id=" ++ ·) ++
    "> (NodeId(" ++ toString n ++ "))" ++ pseudo.elim "" (" " ++ ·.label)

end StyleTree
