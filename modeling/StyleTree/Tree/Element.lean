import StyleTree.Tree.ElementKind

/-!
# Elements

An element by its name, its attributes and the states that it is put into at run time. Attributes
are kept in the order in which they were first set; no two have the same namespace and local name.
-/

namespace StyleTree

structure Attribute where
  name : Name
  value : String
deriving DecidableEq, Repr, Inhabited

/-! ## States -/

/-- What a user or a script does to an element. -/
inductive StateFlag where
  | active
  | focus
  | hover
  | focusVisible
  | visited
  | checked
  | indeterminate
deriving DecidableEq, Repr, Inhabited

namespace StateFlag

def all : List StateFlag :=
  [active, focus, hover, focusVisible, visited, checked, indeterminate]

def name : StateFlag → String
  | active => "ACTIVE"
  | focus => "FOCUS"
  | hover => "HOVER"
  | focusVisible => "FOCUS_VISIBLE"
  | visited => "VISITED"
  | checked => "CHECKED"
  | indeterminate => "INDETERMINATE"

def ofName? (s : String) : Option StateFlag :=
  all.find? (·.name == s)

end StateFlag

/-- A set of flags, listed in the order of `StateFlag.all`. -/
structure ElementState where
  flags : List StateFlag
deriving DecidableEq, Repr

namespace ElementState

def empty : ElementState := ⟨[]⟩

instance : Inhabited ElementState := ⟨empty⟩

def has (s : ElementState) (f : StateFlag) : Bool :=
  s.flags.contains f

/-- The set with each of the `flags` put in, or taken out if `value` is false. -/
def set (s : ElementState) (flags : List StateFlag) (value : Bool) : ElementState :=
  ⟨StateFlag.all.filter fun f => if flags.contains f then value else s.has f⟩

end ElementState

/-! ## Elements -/

structure Element where
  name : Name
  attributes : List Attribute
  state : ElementState
  /-- The names of the custom states that the element is in, without repetition. -/
  customStates : List String
deriving DecidableEq, Repr, Inhabited

namespace Element

def ofName (name : Name) : Element :=
  ⟨name, [], .empty, []⟩

def kind (e : Element) : ElementKind :=
  .ofName e.name.ns e.name.localName

/-- The value of the attribute with the local name in the namespace. -/
def attrIn? (e : Element) (ns localName : String) : Option String :=
  (e.attributes.find? fun a => a.name.ns == ns && a.name.localName == localName).map (·.value)

/-- The value of the attribute in no namespace. -/
def attr? (e : Element) (localName : String) : Option String :=
  e.attrIn? Namespace.none localName

/-- The element has the attribute in no namespace. -/
def hasAttr (e : Element) (localName : String) : Bool :=
  (e.attr? localName).isSome

/-- The id; the spelling in capitals is accepted where there is no other. -/
def id? (e : Element) : Option String :=
  (e.attr? "id").orElse fun _ => e.attr? "ID"

/-- The same namespace, and the same local name in any case. -/
def isSameType (e f : Element) : Bool :=
  e.name.ns == f.name.ns && Ascii.eqIgnoreCase e.name.localName f.name.localName

/-! ## Changing attributes -/

/-- The first attribute that satisfies `p` with the value `value`, or, if there is none, the
attributes with a new one at the end; and the name of the attribute that was set. -/
def putAttr (p : Attribute → Bool) (name : Name) (value : String) :
    List Attribute → List Attribute × Name
  | [] => ([⟨name, value⟩], name)
  | a :: as =>
    if p a then (⟨a.name, value⟩ :: as, a.name)
    else
      let (rest, set) := putAttr p name value as
      (a :: rest, set)

/-- The attributes without the first one that satisfies `p`, and the name of that one. -/
def eraseAttr? (p : Attribute → Bool) : List Attribute → Option (List Attribute × Name)
  | [] => none
  | a :: as =>
    if p a then some (as, a.name)
    else (eraseAttr? p as).map fun (rest, erased) => (a :: rest, erased)

/-! ## Looking attributes up as they are written -/

/-- The attribute is written with the text, colon included. -/
def isWritten (a : Attribute) (text : String) : Bool :=
  match a.name.qualifier with
  | some q =>
    match Name.split text with
    | (some p, l) => q == p && a.name.localName == l
    | (none, _) => false
  | none => a.name.localName == text

/-- The attribute that is written with the text. Where there is none, what follows a colon in the
text is looked up in any case, among the attributes in no namespace or in that of the element. -/
def written? (e : Element) (text : String) : Option Attribute :=
  match e.attributes.find? (isWritten · text) with
  | some a => some a
  | none =>
    match Name.split text with
    | (some _, l) =>
      e.attributes.find? fun a =>
        Ascii.eqIgnoreCase a.name.localName l &&
          (a.name.ns == Namespace.none || a.name.ns == e.name.ns)
    | (none, _) => none

end Element

end StyleTree
