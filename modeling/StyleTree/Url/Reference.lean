import StyleTree.Text.Ascii
import StyleTree.Text.Split
import StyleTree.Url.Scheme

/-!
# References

The text that names a URL, on its own or relative to another one. Control characters and spaces
around it do not count, nor do tabs and line breaks within it.
-/

namespace StyleTree.Url

/-! ## Characters that do not count -/

/-- Control characters and space, which do not count at the ends. -/
def isPadding (c : Char) : Bool :=
  c.toNat ≤ 0x20

/-- Tabs and line breaks, which count nowhere. -/
def isBreak (c : Char) : Bool :=
  c == '\t' || c == '\n' || c == '\r'

/-- The text without padding at its ends. -/
def trimPadding (s : List Char) : List Char :=
  ((s.dropWhile isPadding).reverse.dropWhile isPadding).reverse

/-- The text without tabs and line breaks. -/
def unbroken (s : List Char) : List Char :=
  s.filter fun c => !isBreak c

/-- The first character that counts, and the text after it. -/
def next? (s : List Char) : Option (Char × List Char) :=
  match s.dropWhile isBreak with
  | c :: rest => some (c, rest)
  | [] => none

/-- How many slashes and backslashes the text starts with, and the text after them. -/
def leadingSlashes : List Char → Nat × List Char
  | [] => (0, [])
  | c :: rest =>
    if isBreak c then leadingSlashes rest
    else if isSlash true c then
      let (n, r) := leadingSlashes rest
      (n + 1, r)
    else (0, c :: rest)

/-- The text after two slashes. -/
def afterTwoSlashes? (s : List Char) : Option (List Char) :=
  match next? s with
  | some ('/', r) =>
    match next? r with
    | some ('/', t) => some t
    | _ => none
  | _ => none

/-! ## The parts of a reference -/

/-- A reference, cut at its first `#` and at its first `?` before that. -/
structure Reference where
  front : List Char
  query : Option (List Char)
  fragment : Option (List Char)
deriving DecidableEq, Repr, Inhabited

/-- The text before and after the first `c`, which is dropped. -/
def cutOff (c : Char) (s : List Char) : List Char × Option (List Char) :=
  match cutAt? (· == c) s with
  | some (a, b) => (a, some b)
  | none => (s, none)

def Reference.ofText (s : List Char) : Reference :=
  let (rest, fragment) := cutOff '#' s
  let (front, query) := cutOff '?' rest
  ⟨front, query, fragment⟩

/-- The reference ends with its front. -/
def Reference.isFront (r : Reference) : Bool :=
  r.query.isNone && r.fragment.isNone

def isSchemeChar (c : Char) : Bool :=
  Ascii.isAlphanumeric c || c == '+' || c == '-' || c == '.'

/-- The scheme before the first colon, in lower case, and the text after it. -/
def scheme? (s : List Char) : Option (String × List Char) :=
  match cutAt? (· == ':') s with
  | some (name, rest) =>
    match unbroken name with
    | c :: cs =>
      if Ascii.isAlpha c && cs.all isSchemeChar then
        some (String.ofList ((c :: cs).map Char.toLower), rest)
      else none
    | [] => none
  | none => none

end StyleTree.Url
