import StyleTree.Text.Blank
import StyleTree.Text.Split

/-!
# Names

Names of elements and attributes: a local name in a namespace, perhaps written with a qualifier and
a colon before it. Namespaces are named by text; the empty text stands for no namespace.
-/

namespace StyleTree

namespace Namespace

def none : String := ""
def html : String := "http://www.w3.org/1999/xhtml"
def xml : String := "http://www.w3.org/XML/1998/namespace"
def xmlns : String := "http://www.w3.org/2000/xmlns/"

end Namespace

structure Name where
  /-- What is written before the colon. -/
  qualifier : Option String
  ns : String
  localName : String
deriving DecidableEq, Repr, Inhabited

/-- Why a text is no name. -/
inductive NameError where
  | invalidCharacter
  /-- The qualifier or the name does not go with the namespace. -/
  | namespaceMismatch
deriving DecidableEq, Repr

namespace Name

/-- A name in no namespace. -/
def plain (localName : String) : Name :=
  ⟨Option.none, Namespace.none, localName⟩

/-- The name as it is written. -/
def qualified (n : Name) : String :=
  n.qualifier.elim n.localName (· ++ ":" ++ n.localName)

/-- The name is `localName` in no namespace. -/
def isPlain (n : Name) (localName : String) : Bool :=
  n.ns == Namespace.none && n.localName == localName

/-! ## Reading -/

/-- The character has the Unicode property `Cc`. -/
def isControl (c : Char) : Bool :=
  c.toNat < 0x20 || (0x7f ≤ c.toNat && c.toNat < 0xa0)

/-- The character may occur in a name. -/
def isNameChar (c : Char) : Bool :=
  !(isBlank c || isControl c || ['<', '>', '&', '"', '\'', '/', '='].contains c)

/-- The text is a name: it has at least one character, and does not start like a number. -/
def isValid (s : String) : Bool :=
  match s.toList with
  | [] => false
  | c :: cs => !(Ascii.isDigit c || c == '-' || c == '.') && (c :: cs).all isNameChar

/-- What is before the first colon, if there is one, and what is after it. -/
def split (s : String) : Option String × String :=
  match cutAt? (· == ':') s.toList with
  | some (q, l) => (some (String.ofList q), String.ofList l)
  | none => (none, s)

/-- The name that a text means in a namespace. -/
def ofQualified (ns text : String) : Except NameError Name :=
  let (qualifier, localName) := split text
  if !isValid localName || localName.toList.contains ':' || !qualifier.all isValid then
    .error .invalidCharacter
  else if qualifier.isSome && ns == Namespace.none then .error .namespaceMismatch
  else if qualifier == some "xml" && ns != Namespace.xml then .error .namespaceMismatch
  else if (text == "xmlns" || qualifier == some "xmlns") != (ns == Namespace.xmlns) then
    .error .namespaceMismatch
  else .ok ⟨qualifier, ns, localName⟩

end Name

end StyleTree
