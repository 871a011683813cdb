import StyleTree.Css.Declaration
import StyleTree.Page.Basic
import StyleTree.Text.Number

/-!
# Presentational hints

Declarations that attributes of HTML stand for, such as `width` and `bgcolor`.
-/

namespace StyleTree.Page

/-- A hint, with its value trimmed. -/
def hint (name value : String) : Declaration :=
  ⟨name, trim value, false⟩

/-- The length that the value of an attribute stands for: digits and points at its start, in
percent if a percent sign follows and in pixels else. -/
def dimension? (value : String) : Option String :=
  let s := Ascii.trimStart value.toList
  let isPart (c : Char) := Ascii.isDigit c || c == '.'
  let number := s.takeWhile isPart
  if NumberText.isDecimal number then
    some (String.ofList number ++ if (s.dropWhile isPart).head? = some '%' then "%" else "px")
  else none

/-- An element that is hidden. -/
def hiddenHints (p : Page) (n : NodeId) : List Declaration :=
  if p.hasAttr n "hidden" then [hint "display" "none"] else []

def dimensionHints (p : Page) (n : NodeId) : List Declaration :=
  ["width", "height"].filterMap fun name =>
    ((p.attr? n name).bind dimension?).map (hint name)

def backgroundHints (p : Page) (n : NodeId) : List Declaration :=
  match p.attr? n "bgcolor" with
  | some color => if trim color = "" then [] else [hint "background-color" color]
  | none => []

def alignHints (p : Page) (n : NodeId) : List Declaration :=
  match p.attr? n "align" with
  | some align =>
    let keyword := Ascii.lower (trim align)
    if ["left", "right", "center", "justify"].contains keyword then [hint "text-align" keyword]
    else []
  | none => []

def fontHints (p : Page) (n : NodeId) : List Declaration :=
  [("color", "color"), ("face", "font-family")].filterMap fun (name, property) =>
    (p.attr? n name).map (hint property)

/-- The hints of an element. -/
def hints (p : Page) (n : NodeId) : List Declaration :=
  p.hiddenHints n ++
    match p.kind n with
    | .body | .tableRow | .tableSection => p.backgroundHints n ++ p.alignHints n
    | .table | .tableCell => p.backgroundHints n ++ p.alignHints n ++ p.dimensionHints n
    | .img => p.dimensionHints n
    | .font => p.fontHints n
    | _ => []

end StyleTree.Page
