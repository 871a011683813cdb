import StyleTree.Proofs.Css.AnPlusB
import StyleTree.Proofs.Selector.Arguments
import StyleTree.Proofs.Selector.Canonical
import StyleTree.Selector.Parser

/-!
# Selectors that fit their place

What the reader gives where nothing is at fault: names that can be written, coefficients of 32 bits,
compounds with at most one type selector in front, combinators only where they may stand.
-/

namespace StyleTree

open Css

/-! ## Faults -/

/-- The text of a selector that could not be read, or a language range that cannot be written. -/
def Simple.isFault : Simple → Bool
  | .invalid _ => true
  | .pseudoClass (.lang ranges) => ranges.contains ""
  | _ => false

def Simple.isFaultless (s : Simple) : Bool :=
  s.isMadeOf (!·.isFault) true

def Complex.isFaultless (c : Complex) : Bool :=
  c.isMadeOf (!·.isFault) true

/-- Nothing in the selector was kept as text, and none of its language ranges is empty. -/
def Selector.isFaultless (s : Selector) : Bool :=
  s.complex.isFaultless && s.pseudo.all fun p => p.2.all (·.isFaultless)

theorem compoundMadeOf_eq_all (q : Simple → Bool) (start : Bool) (simples : List Simple) :
    compoundMadeOf q start simples = simples.all (·.isMadeOf q start) := by
  induction simples with
  | nil => rfl
  | cons s rest ih => rw [compoundMadeOf, ih, List.all_cons]

theorem allMadeOf_eq_all (q : Simple → Bool) (start : Bool) (list : List Complex) :
    allMadeOf q start list = list.all (·.isMadeOf q start) := by
  induction list with
  | nil => rfl
  | cons c rest ih => rw [allMadeOf, ih, List.all_cons]

theorem Complex.isFaultless_compound (simples : List Simple) :
    (compound simples).isFaultless = simples.all (·.isFaultless) :=
  compoundMadeOf_eq_all _ _ _

theorem Complex.isFaultless_step (simples : List Simple) (c : Combinator) (left : Complex) :
    (step simples c left).isFaultless = (simples.all (·.isFaultless) && left.isFaultless) := by
  rw [isFaultless, isMadeOf, compoundMadeOf_eq_all]
  rfl

theorem Simple.isFaultless_of_mem_arguments {s : Simple} (h : s.isFaultless = true) :
    ∀ c ∈ s.arguments, c.isFaultless = true := by
  cases s with
  | nthOf _ list | negation list | isAny list | whereAny list | has list =>
    rw [isFaultless, isMadeOf, Bool.and_eq_true, allMadeOf_eq_all, List.all_eq_true] at h
    exact h.2
  | _ => exact fun _ h => absurd h List.not_mem_nil

theorem Simple.isFaultless_of_mem_hosted {s : Simple} (h : s.isFaultless = true) :
    ∀ t ∈ s.hosted, t.isFaultless = true := by
  cases s with
  | host simples =>
    rw [isFaultless, isMadeOf, Bool.and_eq_true, compoundMadeOf_eq_all, List.all_eq_true] at h
    exact h.2
  | _ => exact fun _ h => absurd h List.not_mem_nil

/-! ## Parts -/

/-- A type selector, or the prefix of one. -/
def Simple.isType : Simple → Bool
  | .localName _ | .universal | .noNamespace => true
  | _ => false

/-- At most one type selector stands in the compound, before everything else. -/
def IsTyped (simples : List Simple) : Prop :=
  ∃ (type : Option (Bool × Option String)) (parts : List Simple),
    simples = type.elim [] SelectorReader.typeSimples ++ parts ∧ ∀ s ∈ parts, s.isType = false

/-- The formula is written or implied by the name. -/
inductive NthTest.Fits : NthTest → Prop where
  | implied (side : NthSide) (ofType : Bool) : Fits (.implied side ofType)
  | written {side : NthSide} {ofType : Bool} {formula : AnPlusB} (hside : side ≠ .only)
    (hformula : formula.Fits) : Fits ⟨side, ofType, formula, true⟩

/-- Without a flag the case of the value is what the name of the attribute implies. -/
structure AttributeTest.Fits (t : AttributeTest) : Prop where
  name : IsName t.name
  value : ∀ c ∈ t.comparison, '\x00' ∉ c.value.toList
  rule : ∀ c ∈ t.comparison, c.case = .insensitive ∨ c.case = .explicitSensitive ∨
    SelectorReader.caseRule? t.anyNamespace t.name [] = some (c.case, [])

def PseudoClass.Fits : PseudoClass → Prop
  | .lang ranges => ranges ≠ [] ∧ ∀ r ∈ ranges, IsName r
  | .dir argument => ∃ s, IsName s ∧ argument = .ofName s
  | .customState name => IsName name
  | _ => True

/-! ## Selectors -/

/-- Inside the argument of a pseudo-class. -/
def SelectorPlace.inner (place : SelectorPlace) : SelectorPlace :=
  { place with nested := true }

mutual

/-- What can be written and read at the place. -/
inductive Simple.Fits : SelectorPlace → Simple → Prop where
  | localName {place : SelectorPlace} {name : String} (h : IsName name) :
    Simple.Fits place (.localName name)
  | universal {place : SelectorPlace} : Simple.Fits place .universal
  | noNamespace {place : SelectorPlace} : Simple.Fits place .noNamespace
  | id {place : SelectorPlace} {name : String} (h : IsName name) : Simple.Fits place (.id name)
  | className {place : SelectorPlace} {name : String} (h : IsName name) :
    Simple.Fits place (.className name)
  | attribute {place : SelectorPlace} {test : AttributeTest} (h : test.Fits) :
    Simple.Fits place (.attribute test)
  | root {place : SelectorPlace} : Simple.Fits place .root
  | empty {place : SelectorPlace} : Simple.Fits place .empty
  | scope {place : SelectorPlace} : Simple.Fits place .scope
  | nth {place : SelectorPlace} {test : NthTest} (h : test.Fits) : Simple.Fits place (.nth test)
  | nthOf {place : SelectorPlace} {side : NthSide} {formula : AnPlusB} {list : List Complex}
    (hside : side ≠ .only) (hformula : formula.Fits) (h : ListFits place.inner false list) :
    Simple.Fits place (.nthOf ⟨side, false, formula, true⟩ list)
  | negation {place : SelectorPlace} {list : List Complex} (h : ListFits place.inner false list) :
    Simple.Fits place (.negation list)
  | isAny {place : SelectorPlace} {list : List Complex} (h : ListFits place.inner false list) :
    Simple.Fits place (.isAny list)
  | whereAny {place : SelectorPlace} {list : List Complex} (h : ListFits place.inner false list) :
    Simple.Fits place (.whereAny list)
  | has {place : SelectorPlace} {list : List Complex} (hplace : place.relative = false)
    (h : ListFits { place.inner with relative := true } true list) : Simple.Fits place (.has list)
  | host {place : SelectorPlace} {simples : List Simple}
    (h : CompoundFits { place.inner with single := true } false simples) :
    Simple.Fits place (.host simples)
  | pseudoClass {place : SelectorPlace} {c : PseudoClass} (h : c.Fits) :
    Simple.Fits place (.pseudoClass c)

/-- A compound is not empty, unless a pseudo-element follows it. -/
inductive CompoundFits : SelectorPlace → Bool → List Simple → Prop where
  | mk {place : SelectorPlace} {pseudo : Bool} {simples : List Simple} (htyped : IsTyped simples)
    (hempty : simples = [] → pseudo = true) (hfit : ∀ s ∈ simples, s.Fits place) :
    CompoundFits place pseudo simples

/-- As a selector that is relative or none, given whether a pseudo-element follows it. -/
inductive Complex.Fits : SelectorPlace → Bool → Bool → Complex → Prop where
  | compound {place : SelectorPlace} {pseudo : Bool} {simples : List Simple}
    (h : CompoundFits place pseudo simples) : Complex.Fits place false pseudo (.compound simples)
  | first {place : SelectorPlace} {pseudo : Bool} {simples : List Simple} {c : Combinator}
    (h : CompoundFits place pseudo simples) :
    Complex.Fits place true pseudo (.step simples c .anchor)
  | step {place : SelectorPlace} {relative pseudo : Bool} {simples : List Simple}
    {c : Combinator} {left : Complex} (hplace : place.single = false)
    (h : CompoundFits place pseudo simples) (hleft : left.Fits place relative false) :
    Complex.Fits place relative pseudo (.step simples c left)

inductive ListFits : SelectorPlace → Bool → List Complex → Prop where
  | mk {place : SelectorPlace} {relative : Bool} {list : List Complex} (hempty : list ≠ [])
    (hfit : ∀ c ∈ list, c.Fits place relative false) : ListFits place relative list

end

/-- The start of a relative selector is no selector. -/
theorem Complex.Fits.ne_anchor {place : SelectorPlace} {relative pseudo : Bool} {c : Complex}
    (h : c.Fits place relative pseudo) : c ≠ .anchor := by
  rintro rfl
  cases h

/-- The selector can be written and read in an outermost list. -/
structure Selector.Fits (s : Selector) : Prop where
  complex : s.complex.Fits ⟨false, false, false, false⟩ false s.pseudo.isSome
  /-- Nothing stands after a pseudo-element. -/
  filters : ∀ p ∈ s.pseudo, p.2 = []

/-! ## What is shown -/

theorem shown_parts {universal : Bool} {parts : List Simple}
    (h : ∀ s ∈ parts, s.isType = false) : shown universal parts = parts := by
  refine shown_of_all fun s hs => ?_
  have htype := h s hs
  cases s <;> first | rfl | cases htype

theorem shown_append_parts {parts : List Simple} (h : ∀ s ∈ parts, s.isType = false)
    (universal : Bool) (type : List Simple) :
    shown universal (type ++ parts) = shown universal type ++ parts := by
  rw [shown, List.filter_append]
  exact congrArg _ (shown_parts h)

theorem shown_localName (universal : Bool) (name : String) :
    shown universal [.localName name] = [.localName name] :=
  shown_of_all fun s hs => by rw [List.mem_singleton.mp hs]; rfl

/-- What is written of a compound has its type selector in front. -/
theorem IsTyped.shown {simples : List Simple} (h : IsTyped simples) (pseudo : Bool) :
    IsTyped (shown (showsUniversal simples pseudo) simples) := by
  obtain ⟨type, parts, rfl, hparts⟩ := h
  rw [shown_append_parts hparts]
  obtain _ | ⟨_ | _, _ | name⟩ := type
  · exact ⟨none, parts, rfl, hparts⟩
  · cases showsUniversal _ pseudo with
    | true => exact ⟨some (false, none), parts, rfl, hparts⟩
    | false => exact ⟨none, parts, rfl, hparts⟩
  · exact ⟨some (false, some name), parts, congrArg (· ++ parts) (shown_localName _ name), hparts⟩
  · -- The universal selector after a prefix is always written.
    exact ⟨some (true, none), parts, rfl, hparts⟩
  · exact ⟨some (true, some name), parts, rfl, hparts⟩

/-- What is written of a compound that fits is a compound that fits. -/
theorem CompoundFits.shown {place : SelectorPlace} {pseudo : Bool} {simples : List Simple}
    (h : CompoundFits place pseudo simples) :
    CompoundFits place pseudo (shown (showsUniversal simples pseudo) simples) := by
  obtain ⟨htyped, hempty, hfit⟩ := h
  refine ⟨htyped.shown pseudo, fun hnil => ?_, fun s hs => hfit s (List.mem_filter.mp hs).1⟩
  obtain ⟨type, parts, rfl, hparts⟩ := htyped
  rw [shown_append_parts hparts, List.append_eq_nil_iff] at hnil
  obtain ⟨hnil, rfl⟩ := hnil
  obtain _ | ⟨_ | _, _ | name⟩ := type
  · exact hempty rfl
  · -- A universal selector alone is written, unless a pseudo-element follows it.
    cases pseudo with
    | true => rfl
    | false => cases hnil
  · rw [show Option.elim (some (false, some name)) [] SelectorReader.typeSimples =
      [.localName name] from rfl, shown_localName] at hnil
    cases hnil
  · cases hnil
  · cases hnil

end StyleTree
