import StyleTree.Document.Registration
import StyleTree.Selector.Matching
import StyleTree.Sheet.Rule

/-!
# Computed styles

What a cascade makes of an element. A cascade sees everything that may decide the values, and
nothing else; it is a function of what it sees.
-/

namespace StyleTree

/-! ## Values -/

/-- Values of properties, in the order in which the properties first got one. -/
structure PropertyValues where
  entries : List (String × String)
deriving DecidableEq, Repr

namespace PropertyValues

def empty : PropertyValues := ⟨[]⟩

instance : Inhabited PropertyValues := ⟨empty⟩

def get? (v : PropertyValues) (name : String) : Option String :=
  (v.entries.find? (·.1 == name)).map (·.2)

/-- The entries with the value `value` for the property, which keeps its place. -/
def put (name value : String) : List (String × String) → List (String × String)
  | [] => [(name, value)]
  | (n, v) :: rest => if n = name then (n, value) :: rest else (n, v) :: put name value rest

def insert (v : PropertyValues) (name value : String) : PropertyValues :=
  ⟨put name value v.entries⟩

/-- The values with those of the declarations, later ones last. Importance does not count. -/
def insertAll (v : PropertyValues) (ds : List Declaration) : PropertyValues :=
  ds.foldl (fun v d => v.insert d.name d.value) v

end PropertyValues

/-- The style of an element or of a pseudo-element. -/
inductive ComputedStyle where
  /-- `parent` is the style that it inherits from, `serial` says when it was computed. -/
  | mk (values : PropertyValues) (parent : Option ComputedStyle) (pseudo : Option PseudoElement)
    (serial : Nat)
deriving Inhabited

namespace ComputedStyle

def values : ComputedStyle → PropertyValues
  | mk values _ _ _ => values

def parent : ComputedStyle → Option ComputedStyle
  | mk _ parent _ _ => parent

def pseudo : ComputedStyle → Option PseudoElement
  | mk _ _ pseudo _ => pseudo

def serial : ComputedStyle → Nat
  | mk _ _ _ serial => serial

end ComputedStyle

/-! ## Cascades -/

/-- Everything that a cascade may look at for an element or its pseudo-element. -/
structure CascadeInputs where
  page : Page
  node : NodeId
  pseudo : Option PseudoElement
  parent : Option ComputedStyle
  /-- The style sheets that apply, linked ones first. -/
  sheets : List Stylesheet
  styleAttribute : List Declaration
  hints : List Declaration
  registered : List Registration
  medium : String

/-- The declarations of a rule that selects the element. -/
structure AppliedRule where
  declarations : List Declaration
  specificity : Nat
  /-- The index of the rule among all rules that apply for the medium. -/
  sourceOrder : Nat
deriving DecidableEq, Repr, Inhabited

namespace AppliedRule

/-- Rules of higher specificity come later, and of equal specificity the later ones. -/
def le (a b : AppliedRule) : Bool :=
  a.specificity < b.specificity ||
    (a.specificity == b.specificity && a.sourceOrder ≤ b.sourceOrder)

end AppliedRule

namespace CascadeInputs

/-- The rules of all sheets that apply for the medium, in order. -/
def rules (i : CascadeInputs) : List StyleRule :=
  i.sheets.flatMap (·.effectiveRules i.medium)

/-- The rules that select the element, in ascending precedence. -/
def matchingRules (i : CascadeInputs) : List AppliedRule :=
  (i.rules.zipIdx.filterMap fun (rule, index) =>
    (i.page.matchingSpecificity? i.node rule.selectors i.pseudo).map fun specificity =>
      ⟨rule.declarations, specificity, index⟩).mergeSort AppliedRule.le

end CascadeInputs

abbrev Cascade := CascadeInputs → PropertyValues

namespace Cascade

/-- Every registered property has its initial value, or that of the parent if it is inherited and
the parent has one. -/
def initialValues : Cascade := fun i =>
  i.registered.foldl (fun values r =>
    let inherited := if r.inherits then i.parent.bind (·.values.get? r.name) else none
    match inherited.orElse fun _ => r.initialValue with
    | some value => values.insert r.name value
    | none => values) .empty

/-- Every declaration counts, later ones more: hints, the rules, the style attribute. The colour
is inherited. -/
def declared : Cascade := fun i =>
  let inherited := match i.parent.bind (·.values.get? "color") with
    | some color => PropertyValues.empty.insert "color" color
    | none => .empty
  let values := i.matchingRules.foldl (fun v r => v.insertAll r.declarations)
    (inherited.insertAll i.hints)
  values.insertAll i.styleAttribute

/-- Declarations as one text. -/
def listText (ds : List Declaration) : String :=
  "; ".intercalate (ds.map (·.text))

/-- A record of the inputs: the path from the root, the medium, how many sheets there are, the
declarations by where they come from, and the registered properties. -/
def trace : Cascade := fun i =>
  let step := match i.pseudo with
    | some q => q.text
    | none => "/" ++ (i.page.element? i.node).elim "" (·.name.localName)
  let path := (i.parent.bind (·.values.get? "path")).getD "" ++ step
  let rule (r : AppliedRule) :=
    toString r.specificity ++ "@" ++ toString r.sourceOrder ++ "\x7b" ++ listText r.declarations ++
      "\x7d"
  ⟨[("path", path), ("medium", i.medium), ("sheets", toString i.sheets.length),
    ("hints", listText i.hints), ("rules", " ".intercalate (i.matchingRules.map rule)),
    ("style", listText i.styleAttribute), ("props", ",".intercalate (i.registered.map (·.name)))]⟩

end Cascade

end StyleTree
