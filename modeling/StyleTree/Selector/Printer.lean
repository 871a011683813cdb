import StyleTree.Css.Escaped
import StyleTree.Selector.Basic

/-!
# Selectors as text

The canonical text of selectors: one space around combinators, names escaped where they have to
be, and the universal selector only where nothing else says what a compound is about.
-/

namespace StyleTree

open Css

namespace AnPlusB

/-- A number with its sign. -/
def signedText (n : Int) : String :=
  if n < 0 then toString n else "+" ++ toString n

def text (f : AnPlusB) : String :=
  let step := if f.step = 1 then "n" else if f.step = -1 then "-n" else toString f.step ++ "n"
  if f.step = 0 then toString f.offset
  else if f.offset = 0 then step
  else step ++ signedText f.offset

end AnPlusB

namespace Combinator

/-- Between two compounds. -/
def text : Combinator → String
  | descendant => " "
  | child => " > "
  | nextSibling => " + "
  | laterSibling => " ~ "

/-- At the start of a relative selector. -/
def leadingText : Combinator → String
  | descendant => ""
  | child => "> "
  | nextSibling => "+ "
  | laterSibling => "~ "

end Combinator

namespace DirArgument

def text : DirArgument → String
  | ltr => "ltr"
  | rtl => "rtl"
  | other name => identText name

end DirArgument

namespace PseudoClass

def text : PseudoClass → String
  | lang ranges => ":lang(" ++ ", ".intercalate (ranges.map identText) ++ ")"
  | dir argument => ":dir(" ++ argument.text ++ ")"
  | customState name => ":state(" ++ identText name ++ ")"
  | active => ":active"
  | anyLink => ":any-link"
  | blank => ":blank"
  | checked => ":checked"
  | default => ":default"
  | disabled => ":disabled"
  | enabled => ":enabled"
  | focus => ":focus"
  | focusVisible => ":focus-visible"
  | focusWithin => ":focus-within"
  | hover => ":hover"
  | indeterminate => ":indeterminate"
  | link => ":link"
  | optional => ":optional"
  | placeholderShown => ":placeholder-shown"
  | readOnly => ":read-only"
  | readWrite => ":read-write"
  | required => ":required"
  | target => ":target"
  | visited => ":visited"

end PseudoClass

namespace AttributeOperator

def text : AttributeOperator → String
  | equal => "="
  | includes => "~="
  | dashMatch => "|="
  | beginsWith => "^="
  | endsWith => "$="
  | contains => "*="

end AttributeOperator

namespace CaseRule

/-- The flag after the value, if the rule is not the one that is implied. -/
def text : CaseRule → String
  | sensitive | insensitiveOnHtml => ""
  | explicitSensitive => " s"
  | insensitive => " i"

end CaseRule

namespace AttributeTest

def text (t : AttributeTest) : String :=
  "[" ++ (if t.anyNamespace then "*|" else "") ++ identText t.name ++
    t.comparison.elim "" (fun c => c.operator.text ++ quotedText c.value ++ c.case.text) ++ "]"

end AttributeTest

namespace NthTest

/-- The name of the pseudo-class. -/
def name (t : NthTest) : String :=
  let type := if t.ofType then "of-type" else "child"
  match t.side, t.written with
  | .first, true => ":nth-" ++ type
  | .first, false => ":first-" ++ type
  | .last, true => ":nth-last-" ++ type
  | .last, false => ":last-" ++ type
  | .only, _ => ":only-" ++ type

end NthTest

/-- The simple selector is universal; in a compound with others it is left out. -/
def Simple.isUniversal : Simple → Bool
  | .universal => true
  | _ => false

def Simple.isNoNamespace : Simple → Bool
  | .noNamespace => true
  | _ => false

/-- The universal selectors of the compound are written: it is nothing else, or its namespace is
written. A pseudo-element that follows counts as part of it. -/
def showsUniversal (simples : List Simple) (beforePseudo : Bool) : Bool :=
  match simples with
  | [_] => !beforePseudo
  | s :: _ => s.isNoNamespace
  | [] => true

mutual

def Simple.text : Simple → String
  | .localName name => identText name
  | .universal => "*"
  | .noNamespace => "|"
  | .id name => "#" ++ identText name
  | .className name => "." ++ identText name
  | .attribute test => test.text
  | .root => ":root"
  | .empty => ":empty"
  | .scope => ":scope"
  | .nth test => if test.written then test.name ++ "(" ++ test.formula.text ++ ")" else test.name
  | .nthOf test list => test.name ++ "(" ++ test.formula.text ++ " of " ++ listText list ++ ")"
  | .negation list => ":not(" ++ listText list ++ ")"
  | .isAny list => ":is(" ++ listText list ++ ")"
  | .whereAny list => ":where(" ++ listText list ++ ")"
  | .has list => ":has(" ++ listText list ++ ")"
  | .host simples => ":host(" ++ compoundText (showsUniversal simples false) simples ++ ")"
  | .pseudoClass name => name.text
  | .invalid text => text

/-- The simple selectors of a compound; universal ones only if `universal` is set. -/
def compoundText (universal : Bool) : List Simple → String
  | [] => ""
  | s :: rest =>
    (if s.isUniversal && !universal then "" else s.text) ++ compoundText universal rest

/-- A complex selector, given whether a pseudo-element follows it. -/
def Complex.textBefore (pseudo : Bool) : Complex → String
  | .compound simples => compoundText (showsUniversal simples pseudo) simples
  | .step simples combinator left =>
    (match left with
      | .anchor => combinator.leadingText
      | left => left.textBefore false ++ combinator.text) ++
      compoundText (showsUniversal simples pseudo) simples
  | .anchor => ""

/-- Complex selectors with commas between them. -/
def listText : List Complex → String
  | [] => ""
  | [c] => c.textBefore false
  | c :: rest => c.textBefore false ++ ", " ++ listText rest

end

namespace Selector

def text (s : Selector) : String :=
  match s.pseudo with
  | none => s.complex.textBefore false
  | some (element, filters) =>
    s.complex.textBefore true ++ element.text ++ compoundText false filters

/-- The text of a selector list. -/
def listText (list : List Selector) : String :=
  ", ".intercalate (list.map text)

end Selector

end StyleTree
