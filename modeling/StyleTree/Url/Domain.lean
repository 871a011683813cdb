import StyleTree.Text.Normal
import StyleTree.Text.Split
import StyleTree.Url.Domain.Classes
import StyleTree.Url.Domain.Mapping
import StyleTree.Url.Punycode

/-!
# Domains

A domain is a row of labels between dots. Its name may use the characters of all scripts; two
names that differ in case or style only are the same domain, and the domain has one written form
in ASCII.
-/

namespace StyleTree.Domain

/-! ## The characters of a name -/

def Shift.image? (s : Shift) (c : Char) : Option Char :=
  let n := c.toNat
  if s.first ≤ n && n ≤ s.last && (n - s.first) % s.step == 0 then
    some (Char.ofNat (s.target + (n - s.first)))
  else none

/-- The characters that `c` is short for. -/
def expansion? (c : Char) : Option (List Char) :=
  match (expansions.takeWhile (·.1 ≤ c.toNat)).getLast? with
  | some (start, text) =>
    (((words text)[c.toNat - start]?).filter (· != "-")).map String.toList
  | none => none

/-- What stands for the character in a domain; nothing at all if no domain can hold it. -/
def mapped? (c : Char) : Option (List Char) :=
  match shifts.findSome? (·.image? c), replacements.get? c.toNat, expansion? c with
  | some d, _, _ => some [d]
  | none, some d, _ => some [d]
  | none, none, some cs => some cs
  | none, none, none =>
    if ignored.contains c then some []
    else if disallowed.contains c then none
    else some [c]

/-- ASCII characters that no domain can hold. -/
def isForbidden (c : Char) : Bool :=
  c.toNat ≤ 0x20 || ['%', '#', '/', ':', '<', '>', '?', '@', '[', '\\', ']', '^', '|',
    '\x7f'].contains c

/-- The characters that stand for the name, composed as far as possible. -/
def characters? (s : List Char) : Option (List Char) :=
  (s.mapM mapped?).map fun parts => Normal.ofText parts.flatten

/-! ## Marks and joiners -/

def isMark (c : Char) : Bool :=
  nonspacing.contains c || spacing.contains c

/-- A sign after which letters do not join on their own. -/
def isVirama (c : Char) : Bool :=
  Normal.combiningClass c == 9

/-- The first character that is not transparent satisfies `p`. -/
def joins (p : Char → Bool) (s : List Char) : Bool :=
  ((s.dropWhile fun c => !p c && (nonspacing.contains c || transparent.contains c)).head?).any p

/-- Every joiner is where it makes a difference; `before` holds the characters before, last one
first. -/
def joinersFit (before : List Char) : List Char → Bool
  | [] => true
  | c :: rest =>
    let fits :=
      if c == '\u200c' then
        before.head?.any isVirama ||
          (joins joinsNext.contains before && joins joinsPrevious.contains rest)
      else if c == '\u200d' then before.head?.any isVirama
      else true
    fits && joinersFit (c :: before) rest

/-! ## Directions -/

inductive CharClass where
  | leftToRight
  | rightToLeft
  | arabicNumber
  | europeanNumber
  | nonspacing
  | neutral
deriving DecidableEq, Repr

def charClass (c : Char) : CharClass :=
  if nonspacing.contains c then .nonspacing
  else if europeanNumbers.contains c then .europeanNumber
  else if arabicNumbers.contains c then .arabicNumber
  else if rightToLeft.contains c then .rightToLeft
  else if neutral.contains c then .neutral
  else .leftToRight

/-- A label with this character makes the directions of all labels matter. -/
def isBackward (c : Char) : Bool :=
  charClass c == .rightToLeft || charClass c == .arabicNumber

/-- The label reads the same wherever it stands: it starts with a letter, and what follows runs
the same way. -/
def directionFits (label : List Char) : Bool :=
  match label.map charClass with
  | [] => true
  | .leftToRight :: rest =>
    match rest.reverse.dropWhile (· == .nonspacing) with
    | [] => true
    | last :: middle =>
      (last == .leftToRight || last == .europeanNumber) &&
        middle.all fun k => k != .rightToLeft && k != .arabicNumber
  | .rightToLeft :: rest =>
    match rest.reverse.dropWhile (· == .nonspacing) with
    | [] => true
    | last :: middle =>
      (last == .rightToLeft || last == .europeanNumber || last == .arabicNumber) &&
        middle.all (· != .leftToRight) &&
        !((last :: middle).contains .europeanNumber && (last :: middle).contains .arabicNumber)
  | _ => false

/-! ## Labels -/

/-- A label as it reads and as it is written. -/
structure Label where
  characters : List Char
  ascii : List Char
deriving DecidableEq, Repr, Inhabited

def isAscii (s : List Char) : Bool :=
  s.all (·.toNat < 0x80)

/-- The start of a label that stands for another one. -/
def encodedStart : List Char :=
  ['x', 'n', '-', '-']

/-- Conditions on a label beyond ASCII. -/
def isProper (label : List Char) : Bool :=
  label.length ≤ 1000 && label.head?.all (!isMark ·) && joinersFit [] label

/-- The characters of the label are as they would be in a name. -/
def isMapped (label : List Char) : Bool :=
  label.all (fun c => mapped? c == some [c] && !isForbidden c) && Normal.ofText label == label

/-- The label that the text after the start of an encoded label stands for. -/
def decodedLabel? (s : List Char) : Option (List Char) :=
  if isAscii s && s.getLast?.any (· != '-') && s.length ≤ 2000 then
    (Punycode.decode? s).filter fun label => isMapped label && isProper label
  else none

def label? (s : List Char) : Option Label :=
  if s.any isForbidden then none
  else if encodedStart.isPrefixOf s then
    (decodedLabel? (s.drop 4)).map fun characters => ⟨characters, s⟩
  else if isAscii s then some ⟨s, s⟩
  else if isProper s then some ⟨s, encodedStart ++ Punycode.encode s⟩
  else none

/-- The domain that the name stands for, as it is written. -/
def ofName? (s : List Char) : Option (List Char) :=
  match (characters? s).bind fun cs => (pieces (· == '.') cs).mapM label? with
  | none => none
  | some labels =>
    if labels.any (·.characters.any isBackward) && !labels.all (directionFits ·.characters) then
      none
    else some (List.intercalate ['.'] (labels.map (·.ascii)))

end StyleTree.Domain
