import StyleTree.Text.Split
import StyleTree.Text.Blank
import StyleTree.Selector.Basic

/-!
# Reading selectors

From component values to selectors. Inside `:is()` and `:where()` an entry that cannot be read is
kept as text, provided that no stray token is left after the point where reading failed;
everywhere else one bad entry spoils the list. No namespace prefixes are declared.
-/

namespace StyleTree

open Css

/-- Where in a selector list a reader stands. -/
structure SelectorPlace where
  /-- Inside the argument of a pseudo-class, where no pseudo-element may be named. -/
  nested : Bool
  /-- Inside the argument of `:has()`, where no other `:has()` may stand. -/
  relative : Bool
  /-- After a pseudo-element. -/
  afterPseudo : Bool
  /-- Inside the argument of `:host()`, where no combinator may stand. -/
  single : Bool
deriving DecidableEq, Repr, Inhabited

/-- How the entries of a nested list are read. -/
inductive ListForm where
  /-- Every entry has to be a selector. -/
  | strict
  /-- Entries that are no selectors are kept as text. -/
  | forgiving
  /-- Every entry is a relative selector: it may start with a combinator. -/
  | relative
deriving DecidableEq, Repr, Inhabited

/-- Readers consume component values. A reader that fails leaves the values it did not get to. -/
abbrev SelectorReader := EStateM Unit (List ComponentValue)

/-- A reader of the entries of a nested list. -/
abbrev NestedReader := SelectorPlace → ListForm → List ComponentValue → Option (List Complex)

namespace SelectorReader

def refuse {α : Type} : SelectorReader α :=
  throw ()

def ofOption {α : Type} : Option α → SelectorReader α
  | some a => pure a
  | none => refuse

/-- The next value that is no comment. -/
def next? : SelectorReader (Option ComponentValue) := do
  match skipComments (← get) with
  | v :: rest => set rest; return some v
  | [] => set ([] : List ComponentValue); return none

/-- The next value that is no comment, which has to exist. -/
def next : SelectorReader ComponentValue := do
  ofOption (← next?)

/-! ## Names -/

/-- The name after a namespace prefix; `none` for a universal name. At the end of the values there
is no type selector at all. -/
def prefixedName (noNamespace : Bool) : SelectorReader (Option (Bool × Option String)) := do
  match ← next? with
  | none => return none
  | some (.token ⟨.ident name, _, _⟩) => return some (noNamespace, some name)
  | some (.token ⟨.delim '*', _, _⟩) => return some (noNamespace, none)
  | some _ => refuse

/-- A type selector, if there is one: whether it asks for no namespace, and the local name unless
it is universal. -/
def typeName? : SelectorReader (Option (Bool × Option String)) := do
  let start ← get
  match ← next? with
  | some (.token ⟨.ident name, _, _⟩) =>
    let after ← get
    match ← next? with
    | some (.token ⟨.delim '|', _, _⟩) => refuse
    | _ => set after; return some (false, some name)
  | some (.token ⟨.delim '*', _, _⟩) =>
    let after ← get
    match ← next? with
    | some (.token ⟨.delim '|', _, _⟩) => prefixedName false
    | _ => set after; return some (false, none)
  | some (.token ⟨.delim '|', _, _⟩) => prefixedName true
  | _ => set start; return none

/-- The name of an attribute, and whether any namespace will do. -/
def attributeName : SelectorReader (Bool × String) := do
  set (skipBlank (← get))
  match ← next with
  | .token ⟨.ident name, _, _⟩ =>
    let after ← get
    match ← next? with
    | some (.token ⟨.delim '|', _, _⟩) => refuse
    | _ => set after; return (false, name)
  | .token ⟨.delim '*', _, _⟩ =>
    match ← next with
    | .token ⟨.delim '|', _, _⟩ =>
      match ← next with
      | .token ⟨.ident name, _, _⟩ => return (true, name)
      | _ => refuse
    | _ => refuse
  | .token ⟨.delim '|', _, _⟩ =>
    match ← next with
    | .token ⟨.ident name, _, _⟩ => return (false, name)
    | _ => refuse
  | _ => refuse

/-! ## Attribute selectors -/

/-- Attributes of HTML whose values have no case. -/
def caselessAttributes : List String :=
  ["accept", "accept-charset", "align", "alink", "axis", "bgcolor", "charset", "checked", "clear",
    "codetype", "color", "compact", "declare", "defer", "dir", "direction", "disabled", "enctype",
    "face", "frame", "hreflang", "http-equiv", "lang", "language", "link", "media", "method",
    "multiple", "nohref", "noresize", "noshade", "nowrap", "readonly", "rel", "rev", "rules",
    "scope", "scrolling", "selected", "shape", "target", "text", "type", "valign", "valuetype",
    "vlink"]

def operator? : Token → Option AttributeOperator
  | .delim '=' => some .equal
  | .includeMatch => some .includes
  | .dashMatch => some .dashMatch
  | .prefixMatch => some .beginsWith
  | .suffixMatch => some .endsWith
  | .substringMatch => some .contains
  | _ => none

/-- The flag after an attribute value, and what comparing without one means. -/
def caseRule? (anyNamespace : Bool) (name : String) (vs : List ComponentValue) :
    Option (CaseRule × List ComponentValue) :=
  match skipBlank vs with
  | [] =>
    if !anyNamespace && caselessAttributes.contains (Ascii.lower name) then
      some (.insensitiveOnHtml, [])
    else some (.sensitive, [])
  | .token ⟨.ident flag, _, _⟩ :: rest =>
    if Ascii.eqIgnoreCase flag "i" then some (.insensitive, rest)
    else if Ascii.eqIgnoreCase flag "s" then some (.explicitSensitive, rest)
    else none
  | _ => none

/-- The contents of an attribute selector. -/
def attributeTest : SelectorReader AttributeTest := do
  let (anyNamespace, name) ← attributeName
  match skipBlank (← get) with
  | [] => set ([] : List ComponentValue); return ⟨anyNamespace, name, none⟩
  | v :: rest =>
    let operator ← ofOption (operator? v.head)
    let (value, rest) ← ofOption (identOrQuoted? rest)
    let (case, rest) ← ofOption (caseRule? anyNamespace name rest)
    set rest
    return ⟨anyNamespace, name, some ⟨operator, value, case⟩⟩

/-! ## Pseudo-classes -/

/-- A pseudo-class without an argument. -/
def simplePseudoClass? (name : String) : Option Simple :=
  match Ascii.lower name with
  | "first-child" => some (.nth (.implied .first false))
  | "last-child" => some (.nth (.implied .last false))
  | "only-child" => some (.nth (.implied .only false))
  | "first-of-type" => some (.nth (.implied .first true))
  | "last-of-type" => some (.nth (.implied .last true))
  | "only-of-type" => some (.nth (.implied .only true))
  | "root" => some .root
  | "empty" => some .empty
  | "scope" => some .scope
  | _ => (PseudoClass.ofName? name).map .pseudoClass

/-- The entries between commas, each of which has to be an identifier or a string. -/
def langRanges? (vs : List ComponentValue) : Option (List String) :=
  (pieces (·.isToken .comma) vs).mapM fun piece =>
    match identOrQuoted? piece with
    | some (s, rest) => if isExhausted rest then some s else none
    | none => none

/-- An argument that is one identifier. -/
def soleIdent? (vs : List ComponentValue) : Option String :=
  match ident? vs with
  | some (s, rest) => if isExhausted rest then some s else none
  | none => none

/-- A test of the position, whose argument is a formula and perhaps a list after `of`. -/
def nthTest? (nested : NestedReader) (place : SelectorPlace) (side : NthSide) (ofType : Bool)
    (vs : List ComponentValue) : Option Simple :=
  match AnPlusB.read? vs with
  | none => none
  | some (formula, rest) =>
    let test : NthTest := ⟨side, ofType, formula, true⟩
    if isExhausted rest then some (.nth test)
    else if ofType then none
    else
      match keyword? "of" rest with
      | some rest => (nested { place with nested := true } .strict rest).map (.nthOf test)
      | none => none

/-- A pseudo-class with the argument `vs`. -/
def functionalPseudoClass? (nested : NestedReader) (place : SelectorPlace) (name : String)
    (vs : List ComponentValue) : Option Simple :=
  let inner := { place with nested := true }
  let unlessAfterPseudo (s : Option Simple) := if place.afterPseudo then none else s
  match Ascii.lower name with
  | "nth-child" => unlessAfterPseudo (nthTest? nested place .first false vs)
  | "nth-of-type" => unlessAfterPseudo (nthTest? nested place .first true vs)
  | "nth-last-child" => unlessAfterPseudo (nthTest? nested place .last false vs)
  | "nth-last-of-type" => unlessAfterPseudo (nthTest? nested place .last true vs)
  | "is" => (nested inner .forgiving vs).map .isAny
  | "where" => (nested inner .forgiving vs).map .whereAny
  | "not" => (nested inner .strict vs).map .negation
  | "host" =>
    match nested { inner with single := true } .strict vs with
    | some [.compound simples] => unlessAfterPseudo (some (.host simples))
    | _ => none
  | "has" =>
    if place.relative then none
    else unlessAfterPseudo ((nested { inner with relative := true } .relative vs).map .has)
  | "lang" => unlessAfterPseudo ((langRanges? vs).map (.pseudoClass <| .lang ·))
  | "dir" => unlessAfterPseudo ((soleIdent? vs).map (.pseudoClass <| .dir <| .ofName ·))
  | "state" => unlessAfterPseudo ((soleIdent? vs).map (.pseudoClass <| .customState ·))
  | _ => none

/-! ## Compounds -/

/-- A part of a compound. -/
inductive Part where
  | simple (s : Simple)
  | pseudoElement (p : PseudoElement)

/-- What a colon or two introduce. `argument` is present if a parenthesis follows the name. -/
def pseudoPart? (nested : NestedReader) (place : SelectorPlace) (doubled : Bool) (name : String)
    (argument : Option (List ComponentValue)) : Option Part :=
  if doubled || PseudoElement.isLegacyName name then
    if place.nested || place.afterPseudo || argument.isSome then none
    else (PseudoElement.ofName? name).map .pseudoElement
  else
    match argument with
    | some vs => (functionalPseudoClass? nested place name vs).map .simple
    | none => if place.afterPseudo then none else (simplePseudoClass? name).map .simple

/-- The next part of a compound, or `none` if the compound ends. -/
def part? (nested : NestedReader) (place : SelectorPlace) : SelectorReader (Option Part) := do
  let start ← get
  match ← next? with
  | some (.token ⟨.idHash name, _, _⟩) =>
    if place.afterPseudo then refuse
    return some (.simple (.id name))
  | some (.token ⟨.delim '.', _, _⟩) =>
    if place.afterPseudo then refuse
    match ← next with
    | .token ⟨.ident name, _, _⟩ => return some (.simple (.className name))
    | _ => refuse
  | some (.block ⟨.squareOpen, _, _⟩ body _) =>
    if place.afterPseudo then refuse
    match attributeTest body with
    | .ok test rest => if isExhausted rest then return some (.simple (.attribute test)) else refuse
    | .error _ _ => refuse
  | some (.token ⟨.colon, _, _⟩) =>
    let first ← next
    let doubled := first.isToken .colon
    let named ← if doubled then next else pure first
    match named with
    | .token ⟨.ident name, _, _⟩ => some <$> ofOption (pseudoPart? nested place doubled name none)
    | .block ⟨.function name, _, _⟩ body _ =>
      some <$> ofOption (pseudoPart? nested place doubled name (some body))
    | _ => refuse
  | _ => set start; return none

/-- The parts of a compound: its simple selectors and, if it names a pseudo-element, that and the
simple selectors after it. -/
structure CompoundParts where
  simples : List Simple
  pseudo : Option (PseudoElement × List Simple)

def CompoundParts.isEmpty (c : CompoundParts) : Bool :=
  c.simples.isEmpty && c.pseudo.isNone

/-- The parts up to the end of the compound, of which no more than `limit` are read. -/
def parts (nested : NestedReader) : Nat → SelectorPlace → SelectorReader CompoundParts
  | 0, _ => return ⟨[], none⟩
  | limit + 1, place => do
    match ← part? nested place with
    | none => return ⟨[], none⟩
    | some (.simple s) =>
      let more ← parts nested limit place
      return ⟨s :: more.simples, more.pseudo⟩
    | some (.pseudoElement p) =>
      let more ← parts nested limit { place with afterPseudo := true }
      return ⟨[], some (p, more.simples)⟩

/-- The simple selectors of a type selector. -/
def typeSimples : Bool × Option String → List Simple
  | (noNamespace, name) =>
    (if noNamespace then [.noNamespace] else []) ++ [name.elim .universal .localName]

/-- A compound; possibly empty. -/
def compound (nested : NestedReader) (place : SelectorPlace) : SelectorReader CompoundParts := do
  set (skipBlank (← get))
  let type ← typeName?
  if type.isSome && place.afterPseudo then refuse
  let more ← parts nested (← get).length place
  return ⟨type.elim [] typeSimples ++ more.simples, more.pseudo⟩

/-! ## Complex selectors -/

/-- The combinator at the start of the values. White space is one unless another combinator or
nothing at all follows it. -/
def combinator? : SelectorReader (Option Combinator) := do
  let vs ← get
  let blanks := vs.takeWhile (·.isBlank)
  match skipBlank vs with
  | [] => set ([] : List ComponentValue); return none
  | .token ⟨.delim '>', _, _⟩ :: rest => set rest; return some .child
  | .token ⟨.delim '+', _, _⟩ :: rest => set rest; return some .nextSibling
  | .token ⟨.delim '~', _, _⟩ :: rest => set rest; return some .laterSibling
  | rest =>
    set rest
    return if blanks.any (·.isToken .whitespace) then some .descendant else none

/-- The compound that follows `left`, and all that follows it, in no more than `limit` steps. -/
def steps (nested : NestedReader) (place : SelectorPlace) :
    Nat → Option (Complex × Combinator) → SelectorReader Selector
  | 0, _ => refuse
  | limit + 1, left => do
    let c ← compound nested place
    if c.isEmpty then refuse
    let here : Complex := match left with
      | none => .compound c.simples
      | some (left, combinator) => .step c.simples combinator left
    if c.pseudo.isSome || place.afterPseudo then return ⟨here, c.pseudo⟩
    match ← combinator? with
    | none => return ⟨here, none⟩
    | some combinator =>
      if place.single then refuse
      steps nested place limit (some (here, combinator))

/-- One entry of a list. -/
def entry (nested : NestedReader) (place : SelectorPlace) (form : ListForm) :
    SelectorReader Selector := do
  set (skipBlank (← get))
  if form = .relative then
    let combinator ← combinator?
    steps nested place ((← get).length + 1) (some (.anchor, combinator.getD .descendant))
  else steps nested place ((← get).length + 1) none

/-- The selector that all the values are, or the values that reading it did not get to. -/
def entryOf (nested : NestedReader) (place : SelectorPlace) (form : ListForm)
    (vs : List ComponentValue) : Except (List ComponentValue) Selector :=
  match entry nested place form vs with
  | .ok s rest => if isExhausted rest then .ok s else .error rest
  | .error _ rest => .error rest

/-- The entries of a list whose blocks are nested less than `depth` deep. -/
def nestedList : Nat → NestedReader
  | 0, _, _, _ => none
  | depth + 1, place, form, vs =>
    (pieces (·.isToken .comma) vs).mapM fun piece =>
      match entryOf (nestedList depth) place form piece with
      | .ok s => some s.complex
      | .error rest =>
        if form = .forgiving && allSound rest then
          some (.compound [.invalid (String.ofList (trimBlank (textOf piece)))])
        else none

end SelectorReader

namespace Selector

/-- The selector list that the values are, if they are one. -/
def ofValues? (vs : List ComponentValue) : Option (List Selector) :=
  let nested := SelectorReader.nestedList (depthOf vs)
  (pieces (·.isToken .comma) vs).mapM fun piece =>
    (SelectorReader.entryOf nested ⟨false, false, false, false⟩ .strict piece).toOption

/-- The selector list that the text is, if it is one. -/
def parseList? (s : String) : Option (List Selector) :=
  ofValues? (values s)

end Selector

end StyleTree
