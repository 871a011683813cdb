import StyleTree.Page.Forms
import StyleTree.Text.Direction

/-!
# Direction of elements

Which way the text of an element runs: what the element says itself, else what its parent does. An
element that leaves it to its contents goes by the first character with a direction, where the
parts that see to their own direction do not count.
-/

namespace StyleTree

/-- A keyword of the `dir` attribute. -/
inductive DirKeyword where
  | ltr
  | rtl
  | auto
deriving DecidableEq, Repr

namespace DirKeyword

def ofText? (s : String) : Option DirKeyword :=
  if Ascii.eqIgnoreCase s "ltr" then some ltr
  else if Ascii.eqIgnoreCase s "rtl" then some rtl
  else if Ascii.eqIgnoreCase s "auto" then some auto
  else none

end DirKeyword

namespace Page

def dirKeyword? (p : Page) (n : NodeId) : Option DirKeyword :=
  (p.attr? n "dir").bind DirKeyword.ofText?

/-- The element sees to the direction of its contents itself. -/
def isolatesDirection (p : Page) (n : NodeId) : Bool :=
  (match p.kind n with
    | .bdi | .script | .style | .textArea => true
    | _ => false) ||
    (p.dirKeyword? n).isSome

/-- The direction of the first text in the element that has one. -/
def contentDirection? (p : Page) (n : NodeId) : Option TextDirection :=
  ((p.tree.pruned (fun m => m != n && p.isolatesDirection m) n).tail).findSome? fun m =>
    ((p.tree.data? m).bind (·.characterData?)).bind TextDirection.ofText?

/-- The text of the element is what the user typed into it. -/
def hasTypedText (p : Page) (n : NodeId) : Bool :=
  match p.kind n with
  | .input => (p.inputType n).hasAutoDirection
  | .textArea => true
  | _ => false

/-- The direction that the text of the element has. -/
def autoDirection (p : Page) (n : NodeId) : TextDirection :=
  (if p.hasTypedText n then TextDirection.ofText? (p.value n) else p.contentDirection? n).getD .ltr

/-- The direction that the element decides itself. -/
def ownDirection? (p : Page) (n : NodeId) : Option TextDirection :=
  match p.dirKeyword? n with
  | some .ltr => some .ltr
  | some .rtl => some .rtl
  | some .auto => some (p.autoDirection n)
  | none =>
    match p.kind n with
    | .bdi => some (p.autoDirection n)
    | .input => if p.inputType n = .tel then some .ltr else none
    | _ => none

/-- The direction of the nearest element around the node, or the node itself, that decides it. -/
def direction (p : Page) (n : NodeId) : TextDirection :=
  ((n :: p.ancestorElements n).findSome? p.ownDirection?).getD .ltr

end Page

end StyleTree
