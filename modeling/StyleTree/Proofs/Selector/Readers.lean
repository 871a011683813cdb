import StyleTree.Proofs.Css.Lists
import StyleTree.Proofs.Selector.Chain
import StyleTree.Proofs.Selector.Fits

/-!
# What is read fits its place

Reader by reader, down to the nested lists: whatever is read from values that can be written, if
nothing in it is at fault, fits the place where it was read.
-/

namespace StyleTree

open Css

namespace SelectorReader

/-! ## Steps -/

/-- The compound after what stands on the left of it. -/
def extend (simples : List Simple) : Option (Complex × Combinator) → Complex
  | none => .compound simples
  | some (left, combinator) => .step simples combinator left

/-- All that follows the selector `here` and its pseudo-element, in no more than `limit` steps. -/
def goOn (nested : NestedReader) (place : SelectorPlace) (limit : Nat) (here : Complex)
    (pseudo : Option (PseudoElement × List Simple)) : SelectorReader Selector := do
  if pseudo.isSome || place.afterPseudo then return ⟨here, pseudo⟩
  match ← combinator? with
  | none => return ⟨here, none⟩
  | some combinator =>
    if place.single then refuse
    steps nested place limit (some (here, combinator))

theorem steps_succ (nested : NestedReader) (place : SelectorPlace) (limit : Nat)
    (left : Option (Complex × Combinator)) :
    steps nested place (limit + 1) left = (do
      let c ← compound nested place
      if c.isEmpty then refuse else goOn nested place limit (extend c.simples left) c.pseudo) := by
  rfl

/-! ## Readers of values that can be written -/

/-- Whatever is read satisfies `Q`, and what is left can be written again. -/
def Yields {α : Type} (x : SelectorReader α) (Q : α → Prop) : Prop :=
  ∀ vs a rest, AllProper vs → x vs = .ok a rest → Q a ∧ AllProper rest

section Yields

variable {α β : Type} {x : SelectorReader α} {f : α → SelectorReader β} {Q : α → Prop}
  {R : β → Prop}

theorem Yields.bind (hx : Yields x Q) (hf : ∀ a, Q a → Yields (f a) R) : Yields (x >>= f) R := by
  intro vs b rest hvs h
  obtain ⟨a, us, hxa, hfb⟩ := bind_eq_ok h
  obtain ⟨ha, hus⟩ := hx vs a us hvs hxa
  exact hf a ha us b rest hus hfb

theorem Yields.pure {a : α} (ha : Q a) : Yields (pure a) Q := by
  rintro vs _ _ hvs ⟨⟩
  exact ⟨ha, hvs⟩

theorem Yields.refuse : Yields SelectorReader.refuse Q := by
  rintro vs a rest hvs ⟨⟩

theorem Yields.ofOption {o : Option α} (h : ∀ a, o = some a → Q a) : Yields (ofOption o) Q := by
  cases o with
  | none => exact .refuse
  | some a => exact .pure (h a rfl)

theorem Yields.map {g : α → β} (hx : Yields x fun a => R (g a)) : Yields (g <$> x) R := by
  intro vs b rest hvs h
  rw [map_eq_pure_bind] at h
  exact Yields.bind hx (fun a ha => Yields.pure ha) vs b rest hvs h

theorem Yields.get : Yields get AllProper := by
  rintro vs _ _ hvs ⟨⟩
  exact ⟨hvs, hvs⟩

theorem Yields.set {vs : List ComponentValue} (hvs : AllProper vs) :
    Yields (set vs : SelectorReader PUnit) fun _ => True := by
  rintro _ _ _ _ ⟨⟩
  exact ⟨trivial, hvs⟩

end Yields

theorem yields_next? : Yields next? fun v => ∀ u, v = some u → u.IsProper := by
  refine Yields.get.bind fun vs hvs => ?_
  have hskip := hvs.of_suffix (skipComments_suffix vs)
  split
  next v rest h =>
    rw [h] at hskip
    refine (Yields.set hskip.tail).bind fun _ _ => .pure ?_
    rintro u ⟨⟩
    exact hskip.head
  · exact (Yields.set .nil).bind fun _ _ => .pure nofun

theorem yields_next : Yields next ComponentValue.IsProper :=
  yields_next?.bind fun _ hv => .ofOption hv

/-! ## Names -/

theorem yields_prefixedName (noNamespace : Bool) :
    Yields (prefixedName noNamespace) fun t => ∀ type, t = some type →
      ∀ name, type.2 = some name → IsName name := by
  refine yields_next?.bind fun v hv => ?_
  split
  · exact .pure nofun
  · refine .pure ?_
    rintro _ ⟨⟩ _ ⟨⟩
    exact isName_of_isProper (hv _ rfl)
  · refine .pure ?_
    rintro _ ⟨⟩ _ ⟨⟩
  · exact .refuse

theorem yields_typeName? : Yields typeName? fun t => ∀ type, t = some type →
    ∀ name, type.2 = some name → IsName name := by
  refine Yields.get.bind fun start hstart => ?_
  refine yields_next?.bind fun v hv => ?_
  split
  next name _ _ =>
    refine Yields.get.bind fun after hafter => ?_
    refine yields_next?.bind fun w _ => ?_
    split
    · exact .refuse
    · refine (Yields.set hafter).bind fun _ _ => .pure ?_
      rintro _ ⟨⟩ _ ⟨⟩
      exact isName_of_isProper (hv _ rfl)
  · refine Yields.get.bind fun after hafter => ?_
    refine yields_next?.bind fun w _ => ?_
    split
    · exact yields_prefixedName false
    · refine (Yields.set hafter).bind fun _ _ => .pure ?_
      rintro _ ⟨⟩ _ ⟨⟩
  · exact yields_prefixedName true
  · exact (Yields.set hstart).bind fun _ _ => .pure nofun

theorem yields_attributeName : Yields attributeName fun r => IsName r.2 := by
  refine Yields.get.bind fun vs hvs => ?_
  refine (Yields.set hvs.skipBlank).bind fun _ _ => ?_
  refine yields_next.bind fun v hv => ?_
  split
  · refine Yields.get.bind fun after hafter => ?_
    refine yields_next?.bind fun w _ => ?_
    split
    · exact .refuse
    · exact (Yields.set hafter).bind fun _ _ => .pure (isName_of_isProper hv)
  · refine yields_next.bind fun w _ => ?_
    split
    · refine yields_next.bind fun u hu => ?_
      split
      · exact .pure (isName_of_isProper hu)
      · exact .refuse
    · exact .refuse
  · refine yields_next.bind fun u hu => ?_
    split
    · exact .pure (isName_of_isProper hu)
    · exact .refuse
  · exact .refuse

/-! ## Attribute selectors -/

theorem caseRule?_spec {anyNamespace : Bool} {name : String} {vs rest : List ComponentValue}
    {rule : CaseRule} (h : caseRule? anyNamespace name vs = some (rule, rest)) :
    (rule = .insensitive ∨ rule = .explicitSensitive ∨
      caseRule? anyNamespace name [] = some (rule, [])) ∧ rest <:+ vs := by
  unfold caseRule? at h
  split at h
  · have hrule : caseRule? anyNamespace name [] = some (rule, rest) := h
    obtain rfl : rest = [] := by
      split at h <;> cases h <;> rfl
    exact ⟨.inr (.inr hrule), List.nil_suffix⟩
  next hskip =>
    split at h
    · cases h
      exact ⟨.inl rfl, suffix_of_skipBlank hskip⟩
    split at h
    · cases h
      exact ⟨.inr (.inl rfl), suffix_of_skipBlank hskip⟩
    · cases h
  · cases h

theorem yields_attributeTest : Yields attributeTest AttributeTest.Fits := by
  refine yields_attributeName.bind ?_
  rintro ⟨anyNamespace, name⟩ hname
  refine Yields.get.bind fun vs hvs => ?_
  split
  · refine (Yields.set .nil).bind fun _ _ => .pure ?_
    refine ⟨hname, ?_, ?_⟩
    · rintro _ ⟨⟩
    · rintro _ ⟨⟩
  next v rest hskip =>
    have hrest := hvs.of_suffix (suffix_of_skipBlank hskip)
    refine (Yields.ofOption (Q := fun _ => True) fun _ _ => trivial).bind fun operator _ => ?_
    refine (Yields.ofOption fun _ h => identOrQuoted?_spec hrest h).bind ?_
    rintro ⟨value, rest'⟩ ⟨hvalue, hrest'⟩
    refine (Yields.ofOption fun _ h => caseRule?_spec h).bind ?_
    rintro ⟨rule, rest''⟩ ⟨hrule, hrest''⟩
    refine (Yields.set (hrest.of_suffix (hrest''.trans hrest'))).bind fun _ _ => .pure ?_
    refine ⟨hname, ?_, ?_⟩
    · rintro _ ⟨⟩
      exact hvalue
    · rintro _ ⟨⟩
      exact hrule

/-- What holds of every part that can come next, given how it is read, holds of the one that does. -/
theorem yields_part?_of {nested : NestedReader} {place : SelectorPlace} {Q : Part → Prop}
    (hid : ∀ name, IsName name → place.afterPseudo = false → Q (.simple (.id name)))
    (hclass : ∀ name, IsName name → place.afterPseudo = false → Q (.simple (.className name)))
    (hattribute : ∀ test, AttributeTest.Fits test → place.afterPseudo = false →
      Q (.simple (.attribute test)))
    (hpseudo : ∀ {doubled : Bool} {name : String} {argument : Option (List ComponentValue)}
      {part : Part}, (∀ vs, argument = some vs → AllProper vs) →
      pseudoPart? nested place doubled name argument = some part → Q part) :
    Yields (part? nested place) fun o => ∀ part, o = some part → Q part := by
  have hsome : ∀ {part : Part}, Q part → ∀ other, some part = some other → Q other := by
    rintro part hpart _ ⟨⟩
    exact hpart
  have hbefore : ∀ {R : Option Part → Prop} {x : SelectorReader (Option Part)},
      (place.afterPseudo = false → Yields x R) →
      Yields (if place.afterPseudo = true then refuse >>= fun _ : PUnit => x else x) R := by
    intro R x hx
    split
    · exact (Yields.refuse (Q := fun _ => False)).bind fun _ h => h.elim
    next hplace => exact hx (by simpa using hplace)
  refine Yields.get.bind fun start hstart => ?_
  refine yields_next?.bind fun v hv => ?_
  split
  next name _ _ =>
    refine hbefore fun hplace => .pure ?_
    exact hsome (hid name (hv _ rfl).token_isProper hplace)
  · refine hbefore fun hplace => yields_next.bind fun w hw => ?_
    split
    · exact .pure (hsome (hclass _ (isName_of_isProper hw) hplace))
    · exact .refuse
  next body _ =>
    refine hbefore fun hplace => ?_
    have hbody : AllProper body := by
      cases hv _ rfl with
      | block hbody => exact hbody
    split
    next test rest htest =>
      split
      · exact .pure (hsome (hattribute test (yields_attributeTest _ _ _ hbody htest).1 hplace))
      · exact .refuse
    · exact .refuse
  · refine yields_next.bind fun first hfirst => ?_
    have hpart : ∀ {name : String} {argument : Option (List ComponentValue)},
        (∀ vs, argument = some vs → AllProper vs) →
        Yields (some <$> ofOption (pseudoPart? nested place (first.isToken .colon) name argument))
          fun o => ∀ part, o = some part → Q part := by
      intro name argument hargument
      exact .map (.ofOption fun part hpart => hsome (hpseudo hargument hpart))
    -- The name comes next or after a second colon.
    have hnamed : ∀ {R : Option Part → Prop} {x : ComponentValue → SelectorReader (Option Part)},
        (∀ named, named.IsProper → Yields (x named) R) →
        Yields (if first.isToken .colon = true then next >>= x else pure first >>= x) R := by
      intro R x hx
      split
      · exact yields_next.bind hx
      · exact (Yields.pure hfirst).bind hx
    refine hnamed fun named hproper => ?_
    beta_reduce
    split
    · refine hpart ?_
      rintro _ ⟨⟩
    next body _ =>
      refine hpart ?_
      rintro _ ⟨⟩
      cases hproper with
      | block hbody => exact hbody
    · exact .refuse
  · refine (Yields.set hstart).bind fun _ _ => .pure ?_
    rintro _ ⟨⟩

/-! ## Pseudo-classes -/

/-- Where nothing is at fault the selector fits the place, which is not after a pseudo-element. -/
def FitsUnlessFault (place : SelectorPlace) (s : Simple) : Prop :=
  s.isFaultless = true → place.afterPseudo = false ∧ s.Fits place

/-- Nested lists are not empty, and their faultless selectors fit the place. -/
def Sound (nested : NestedReader) : Prop :=
  ∀ place form vs list, place.nested = true → AllProper vs → nested place form vs = some list →
    list ≠ [] ∧ ∀ c ∈ list, c.isFaultless = true →
      place.afterPseudo = false ∧ c.Fits place (form = .relative) false

theorem Sound.listFits {nested : NestedReader} (hnested : Sound nested) {place : SelectorPlace}
    {form : ListForm} {vs : List ComponentValue} {list : List Complex}
    (hplace : place.nested = true) (hvs : AllProper vs) (h : nested place form vs = some list)
    (hfaultless : ∀ c ∈ list, c.isFaultless = true) :
    place.afterPseudo = false ∧ ListFits place (form = .relative) list := by
  obtain ⟨hempty, hfit⟩ := hnested place form vs list hplace hvs h
  obtain ⟨c, rest, rfl⟩ := List.exists_cons_of_ne_nil hempty
  have hfirst := hfit c List.mem_cons_self (hfaultless c List.mem_cons_self)
  exact ⟨hfirst.1, hempty, fun c hc => (hfit c hc (hfaultless c hc)).2⟩

theorem ofName?_fits {name : String} {c : PseudoClass} (h : PseudoClass.ofName? name = some c) :
    c.Fits := by
  have hsimple : ∀ p ∈ PseudoClass.simple, p.2.Fits := by
    simp [PseudoClass.simple, PseudoClass.Fits]
  obtain ⟨p, hp, rfl⟩ := Option.map_eq_some_iff.mp h
  exact hsimple p (List.mem_of_find?_eq_some hp)

theorem simplePseudoClass?_fits {name : String} {s : Simple} (h : simplePseudoClass? name = some s)
    (place : SelectorPlace) : s.isType = false ∧ s.Fits place := by
  unfold simplePseudoClass? at h
  split at h
  case h_10 =>
    obtain ⟨c, hc, rfl⟩ := Option.map_eq_some_iff.mp h
    exact ⟨rfl, .pseudoClass (ofName?_fits hc)⟩
  case h_7 => cases h; exact ⟨rfl, .root⟩
  case h_8 => cases h; exact ⟨rfl, .empty⟩
  case h_9 => cases h; exact ⟨rfl, .scope⟩
  all_goals
    cases h
    exact ⟨rfl, .nth (.implied _ _)⟩

theorem ne_nil_of_mapM {α β : Type} {f : α → Option β} {xs : List α} {ys : List β}
    (h : xs.mapM f = some ys) (hxs : xs ≠ []) : ys ≠ [] := by
  rintro rfl
  cases xs with
  | nil => exact hxs rfl
  | cons x xs =>
    simp only [List.mapM_cons, Option.bind_eq_bind, Option.bind_eq_some_iff, Option.pure_def,
      Option.some.injEq] at h
    obtain ⟨_, -, _, -, h⟩ := h
    cases h

theorem langRanges?_spec {vs : List ComponentValue} {ranges : List String} (hvs : AllProper vs)
    (h : langRanges? vs = some ranges) : ranges ≠ [] ∧ ∀ r ∈ ranges, '\x00' ∉ r.toList := by
  refine ⟨ne_nil_of_mapM h (pieces_ne_nil _ _), fun r hr => ?_⟩
  obtain ⟨piece, hpiece, hread⟩ := exists_of_mem_mapM h hr
  split at hread
  next s rest hs =>
    split at hread
    · cases hread
      exact (identOrQuoted?_spec (hvs.of_mem_pieces hpiece) hs).1
    · cases hread
  · cases hread

theorem lang_fits {place : SelectorPlace} {ranges : List String} (hranges : ranges ≠ [])
    (h : ∀ r ∈ ranges, '\x00' ∉ r.toList)
    (hfaultless : (Simple.pseudoClass (.lang ranges)).isFaultless = true) :
    Simple.Fits place (.pseudoClass (.lang ranges)) := by
  have hempty : "" ∉ ranges := by
    simpa [Simple.isFaultless, Simple.isMadeOf, Simple.isFault] using hfaultless
  refine .pseudoClass ⟨hranges, fun r hr => ⟨fun hnil => hempty ?_, h r hr⟩⟩
  rwa [String.toList_eq_nil_iff.mp hnil] at hr

theorem soleIdent?_spec {vs : List ComponentValue} {s : String} (hvs : AllProper vs)
    (h : soleIdent? vs = some s) : IsName s := by
  unfold soleIdent? at h
  split at h
  next hident =>
    split at h
    · cases h
      exact (ident?_spec hvs hident).1
    · cases h
  · cases h

/-- A simple selector of its own kind fits the place unless it is at fault; a pseudo-element is
named only where one may be. -/
def Part.FitsUnlessFault (place : SelectorPlace) : Part → Prop
  | .simple s => s.isType = false ∧ SelectorReader.FitsUnlessFault place s
  | .pseudoElement _ => (place.nested = false ∧ place.afterPseudo = false)

/-- The parts of a compound fit the place unless they are at fault, and what stands after a
pseudo-element is at fault. -/
structure CompoundParts.FitsUnlessFault (place : SelectorPlace) (c : CompoundParts) : Prop where
  simples : ∀ s ∈ c.simples, SelectorReader.FitsUnlessFault place s
  pseudo : ∀ p ∈ c.pseudo, place.nested = false ∧ place.afterPseudo = false ∧
    ∀ s ∈ p.2, s.isFaultless = false

theorem fits_of_mem_type {place : SelectorPlace} {type : Option (Bool × Option String)}
    (hplace : type.isSome = true → place.afterPseudo = false)
    (htype : ∀ t, type = some t → ∀ name, t.2 = some name → IsName name) {s : Simple}
    (hs : s ∈ type.elim [] typeSimples) : place.afterPseudo = false ∧ s.Fits place := by
  obtain _ | ⟨noNamespace, name⟩ := type
  · cases hs
  refine ⟨hplace rfl, ?_⟩
  have hs : s ∈ (if noNamespace then [Simple.noNamespace] else []) ++
      [name.elim .universal .localName] := hs
  rcases List.mem_append.mp hs with hs | hs
  · obtain rfl : s = .noNamespace := by
      split at hs
      · exact List.mem_singleton.mp hs
      · cases hs
    exact .noNamespace
  · obtain rfl := List.mem_singleton.mp hs
    cases name with
    | none => exact .universal
    | some name => exact .localName (htype _ rfl name rfl)

theorem eq_nil_of_faults {simples : List Simple} (h : ∀ s ∈ simples, s.isFaultless = false)
    (hfaultless : simples.all (·.isFaultless) = true) : simples = [] := by
  cases simples with
  | nil => rfl
  | cons s rest =>
    rw [List.all_cons, h s List.mem_cons_self] at hfaultless
    cases hfaultless

theorem CompoundParts.FitsUnlessFault.compoundFits {place : SelectorPlace} {c : CompoundParts}
    (h : c.FitsUnlessFault place) (htyped : IsTyped c.simples) (hempty : c.isEmpty = false)
    (hfaultless : c.simples.all (·.isFaultless) = true) :
    place.afterPseudo = false ∧ CompoundFits place c.pseudo.isSome c.simples := by
  rw [List.all_eq_true] at hfaultless
  have hfit : ∀ s ∈ c.simples, s.Fits place :=
    fun s hs => (h.simples s hs (hfaultless s hs)).2
  cases hpseudo : c.pseudo with
  | some p => exact ⟨(h.pseudo p hpseudo).2.1, htyped, fun _ => rfl, hfit⟩
  | none =>
    have hsimples : c.simples ≠ [] := by
      intro hnil
      simp [isEmpty, hnil, hpseudo] at hempty
    obtain ⟨s, rest, hcons⟩ := List.exists_cons_of_ne_nil hsimples
    have hs : s ∈ c.simples := hcons ▸ List.mem_cons_self
    exact ⟨(h.simples s hs (hfaultless s hs)).1, htyped, fun hnil => absurd hnil hsimples, hfit⟩

/-- What stands on the left fits the place unless it is at fault, and a combinator may follow. -/
def LeftFits (place : SelectorPlace) (relative : Bool) : Option (Complex × Combinator) → Prop
  | none => relative = false
  | some (left, _) => left = .anchor ∧ relative = true ∨
    place.single = false ∧ (left.isFaultless = true → left.Fits place relative false)

/-- The selector fits the place unless it is at fault, and then nothing stands after a
pseudo-element; one is named only where one may be. -/
structure SelectorFits (place : SelectorPlace) (relative : Bool) (s : Selector) : Prop where
  pseudo : ∀ p ∈ s.pseudo, place.nested = false
  fits : s.isFaultless = true → place.afterPseudo = false ∧
    s.complex.Fits place relative s.pseudo.isSome ∧ ∀ p ∈ s.pseudo, p.2 = []

/-- A compound goes on from what stands on the left. -/
theorem LeftFits.extend {place : SelectorPlace} {relative pseudo : Bool}
    {left : Option (Complex × Combinator)} {simples : List Simple}
    (hleft : LeftFits place relative left)
    (hsimples : simples.all (·.isFaultless) = true →
      place.afterPseudo = false ∧ CompoundFits place pseudo simples)
    (hfaultless : (extend simples left).isFaultless = true) :
    place.afterPseudo = false ∧ (extend simples left).Fits place relative pseudo := by
  rcases left with _ | ⟨left, combinator⟩
  · obtain rfl : relative = false := hleft
    have hfaultless : (Complex.compound simples).isFaultless = true := hfaultless
    rw [Complex.isFaultless_compound] at hfaultless
    exact (hsimples hfaultless).imp_right .compound
  · have hfaultless : (Complex.step simples combinator left).isFaultless = true := hfaultless
    rw [Complex.isFaultless_step, Bool.and_eq_true] at hfaultless
    obtain ⟨hplace, hcompound⟩ := hsimples hfaultless.1
    rcases hleft with ⟨rfl, rfl⟩ | ⟨hsingle, hfit⟩
    · exact ⟨hplace, .first hcompound⟩
    · exact ⟨hplace, .step hsingle hcompound (hfit hfaultless.2)⟩

theorem yields_combinator? : Yields combinator? fun _ => True := by
  refine Yields.get.bind fun vs hvs => ?_
  have hskip := hvs.skipBlank
  dsimp only
  split
  next h => exact (Yields.set .nil).bind fun _ _ => .pure trivial
  next h => exact (Yields.set (h ▸ hskip).tail).bind fun _ _ => .pure trivial
  next h => exact (Yields.set (h ▸ hskip).tail).bind fun _ _ => .pure trivial
  next h => exact (Yields.set (h ▸ hskip).tail).bind fun _ _ => .pure trivial
  · exact (Yields.set hskip).bind fun _ _ => .pure trivial

section Nested

variable {nested : NestedReader} (hnested : Sound nested) {place : SelectorPlace}
  {vs : List ComponentValue}

include hnested

theorem nthTest?_spec {side : NthSide} (hside : side ≠ .only) {ofType : Bool} {s : Simple}
    (hplace : place.afterPseudo = false) (hvs : AllProper vs)
    (h : nthTest? nested place side ofType vs = some s) :
    s.isType = false ∧ FitsUnlessFault place s := by
  unfold nthTest? at h
  split at h
  · cases h
  next formula rest hread =>
    obtain ⟨hformula, hrest⟩ := AnPlusB.read?_spec hvs hread
    split at h
    · cases h
      exact ⟨rfl, fun _ => ⟨hplace, .nth (.written hside hformula)⟩⟩
    split at h
    · cases h
    next htype =>
      obtain rfl : ofType = false := by simpa using htype
      split at h
      next rest' hof =>
        obtain ⟨list, hlist, rfl⟩ := Option.map_eq_some_iff.mp h
        have hproper := hvs.of_suffix
          ((keyword?_suffix (hvs.of_suffix hrest) hof).trans hrest)
        refine ⟨rfl, fun hfaultless => ⟨hplace, .nthOf hside hformula ?_⟩⟩
        exact (hnested.listFits rfl hproper hlist
          (Simple.isFaultless_of_mem_arguments hfaultless)).2
      · cases h

theorem functionalPseudoClass?_spec {name : String} {s : Simple} (hvs : AllProper vs)
    (h : functionalPseudoClass? nested place name vs = some s) :
    s.isType = false ∧ FitsUnlessFault place s := by
  have hunless : ∀ {o : Option Simple}, (if place.afterPseudo then none else o) = some s →
      place.afterPseudo = false ∧ o = some s := by
    intro o h
    split at h
    · cases h
    next hplace => exact ⟨by simpa using hplace, h⟩
  have hlist : ∀ {p : SelectorPlace} {form : ListForm} {list : List Complex},
      p.nested = true → nested p form vs = some list → s.isFaultless = true →
        s.arguments = list → p.afterPseudo = false ∧ ListFits p (form = .relative) list := by
    rintro p form list hp hlist hfaultless rfl
    exact hnested.listFits hp hvs hlist (Simple.isFaultless_of_mem_arguments hfaultless)
  unfold functionalPseudoClass? at h
  dsimp only at h
  -- One case for each name, in the order in which they are compared.
  split at h
  case h_1 | h_2 | h_3 | h_4 =>
    obtain ⟨hplace, h⟩ := hunless h
    exact nthTest?_spec hnested (by decide) hplace hvs h
  case h_5 =>
    obtain ⟨list, hread, rfl⟩ := Option.map_eq_some_iff.mp h
    exact ⟨rfl, fun hfaultless => (hlist rfl hread hfaultless rfl).imp_right .isAny⟩
  case h_6 =>
    obtain ⟨list, hread, rfl⟩ := Option.map_eq_some_iff.mp h
    exact ⟨rfl, fun hfaultless => (hlist rfl hread hfaultless rfl).imp_right .whereAny⟩
  case h_7 =>
    obtain ⟨list, hread, rfl⟩ := Option.map_eq_some_iff.mp h
    exact ⟨rfl, fun hfaultless => (hlist rfl hread hfaultless rfl).imp_right .negation⟩
  case h_8 =>
    -- The argument of `:host()` has to be a list of one compound.
    split at h
    next simples hread =>
      obtain ⟨hplace, h⟩ := hunless h
      cases h
      refine ⟨rfl, fun hfaultless => ⟨hplace, ?_⟩⟩
      have hcompound : (Complex.compound simples).isFaultless = true := by
        rw [Complex.isFaultless_compound, List.all_eq_true]
        exact Simple.isFaultless_of_mem_hosted hfaultless
      have hfits := ((hnested _ _ _ _ rfl hvs hread).2 _ List.mem_cons_self hcompound).2
      cases hfits with
      | compound hsimples => exact .host hsimples
    · cases h
  case h_9 =>
    split at h
    · cases h
    next hrelative =>
      obtain ⟨hplace, h⟩ := hunless h
      obtain ⟨list, hread, rfl⟩ := Option.map_eq_some_iff.mp h
      refine ⟨rfl, fun hfaultless => ⟨hplace, .has (by simpa using hrelative) ?_⟩⟩
      exact (hlist rfl hread hfaultless rfl).2
  case h_10 =>
    obtain ⟨hplace, h⟩ := hunless h
    obtain ⟨ranges, hread, rfl⟩ := Option.map_eq_some_iff.mp h
    obtain ⟨hranges, hproper⟩ := langRanges?_spec hvs hread
    exact ⟨rfl, fun hfaultless => ⟨hplace, lang_fits hranges hproper hfaultless⟩⟩
  case h_11 =>
    obtain ⟨hplace, h⟩ := hunless h
    obtain ⟨s, hread, rfl⟩ := Option.map_eq_some_iff.mp h
    exact ⟨rfl, fun _ => ⟨hplace, .pseudoClass ⟨s, soleIdent?_spec hvs hread, rfl⟩⟩⟩
  case h_12 =>
    obtain ⟨hplace, h⟩ := hunless h
    obtain ⟨s, hread, rfl⟩ := Option.map_eq_some_iff.mp h
    exact ⟨rfl, fun _ => ⟨hplace, .pseudoClass (soleIdent?_spec hvs hread)⟩⟩
  case h_13 => cases h

/-! ## Compounds -/

theorem pseudoPart?_spec {doubled : Bool} {name : String}
    {argument : Option (List ComponentValue)} (hargument : ∀ vs, argument = some vs → AllProper vs)
    {part : Part} (h : pseudoPart? nested place doubled name argument = some part) :
    part.FitsUnlessFault place := by
  unfold pseudoPart? at h
  split at h
  · split at h
    · cases h
    next hplace =>
      obtain ⟨p, -, rfl⟩ := Option.map_eq_some_iff.mp h
      simp only [Bool.or_eq_true, not_or, Bool.not_eq_true] at hplace
      exact ⟨hplace.1.1, hplace.1.2⟩
  · split at h
    next vs =>
      obtain ⟨s, hs, rfl⟩ := Option.map_eq_some_iff.mp h
      exact functionalPseudoClass?_spec hnested (hargument vs rfl) hs
    · split at h
      · cases h
      next hplace =>
        obtain ⟨s, hs, rfl⟩ := Option.map_eq_some_iff.mp h
        obtain ⟨htype, hfits⟩ := simplePseudoClass?_fits hs place
        exact ⟨htype, fun _ => ⟨by simpa using hplace, hfits⟩⟩

theorem yields_part? : Yields (part? nested place) fun o => ∀ part, o = some part →
    part.FitsUnlessFault place := by
  have hplain : ∀ {s : Simple}, s.isType = false → place.afterPseudo = false → s.Fits place →
      (Part.simple s).FitsUnlessFault place :=
    fun htype hplace hs => ⟨htype, fun _ => ⟨hplace, hs⟩⟩
  exact yields_part?_of (fun name hname hplace => hplain rfl hplace (.id hname))
    (fun name hname hplace => hplain rfl hplace (.className hname))
    (fun test htest hplace => hplain rfl hplace (.attribute htest))
    fun hargument hpart => pseudoPart?_spec hnested hargument hpart

theorem yields_parts (limit : Nat) (place : SelectorPlace) :
    Yields (parts nested limit place) fun c =>
      (∀ s ∈ c.simples, s.isType = false) ∧ c.FitsUnlessFault place := by
  induction limit generalizing place with
  | zero => exact .pure ⟨nofun, nofun, nofun⟩
  | succ limit ih =>
    refine (yields_part? hnested).bind fun o ho => ?_
    split
    · exact .pure ⟨nofun, nofun, nofun⟩
    next s =>
      obtain ⟨htype, hs⟩ := ho _ rfl
      refine (ih place).bind fun more ⟨htypes, hmore⟩ => .pure ⟨?_, ?_, hmore.pseudo⟩
      · exact List.forall_mem_cons.mpr ⟨htype, htypes⟩
      · exact List.forall_mem_cons.mpr ⟨hs, hmore.simples⟩
    next p =>
      refine (ih _).bind fun more ⟨_, hmore⟩ => .pure ⟨nofun, nofun, ?_⟩
      rintro p ⟨⟩
      -- After a pseudo-element whatever is read is at fault.
      refine ⟨(ho _ rfl).1, (ho _ rfl).2, fun s hs => ?_⟩
      rw [Bool.eq_false_iff]
      intro hfaultless
      cases (hmore.simples s hs hfaultless).1

theorem yields_compound : Yields (compound nested place) fun c =>
    IsTyped c.simples ∧ c.FitsUnlessFault place := by
  refine Yields.get.bind fun vs hvs => ?_
  refine (Yields.set hvs.skipBlank).bind fun _ _ => ?_
  refine yields_typeName?.bind fun type htype => ?_
  have hrest : (type.isSome = true → place.afterPseudo = false) →
      Yields (do
        let more ← parts nested (← get).length place
        return (⟨type.elim [] typeSimples ++ more.simples, more.pseudo⟩ : CompoundParts))
        fun c => IsTyped c.simples ∧ c.FitsUnlessFault place := by
    intro hplace
    refine Yields.get.bind fun us _ => ?_
    refine (yields_parts hnested _ _).bind fun more ⟨htypes, hmore⟩ => .pure ⟨?_, ?_, hmore.pseudo⟩
    · exact ⟨type, more.simples, rfl, htypes⟩
    · intro s hs
      rcases List.mem_append.mp hs with hs | hs
      · exact fun _ => fits_of_mem_type hplace htype hs
      · exact hmore.simples s hs
  dsimp only
  split
  · exact (Yields.refuse (Q := fun _ => False)).bind nofun
  next hplace => exact hrest (by simpa using hplace)

/-! ## Complex selectors -/

theorem yields_steps (limit : Nat) {relative : Bool} {left : Option (Complex × Combinator)}
    (hleft : LeftFits place relative left) :
    Yields (steps nested place limit left) (SelectorFits place relative) := by
  induction limit generalizing left with
  | zero => exact .refuse
  | succ limit ih =>
    rw [steps_succ]
    refine (yields_compound hnested).bind fun c ⟨htyped, hc⟩ => ?_
    split
    · exact .refuse
    next hempty =>
      have hextend := hleft.extend (hc.compoundFits htyped (by simpa using hempty))
      unfold goOn
      split
      · refine .pure ⟨fun p hp => (hc.pseudo p hp).1, fun hfaultless => ?_⟩
        rw [Selector.isFaultless, Bool.and_eq_true] at hfaultless
        obtain ⟨hplace, hfits⟩ := hextend hfaultless.1
        refine ⟨hplace, hfits, fun p hp => ?_⟩
        have hfilters := hfaultless.2
        rw [show c.pseudo = some p from hp] at hfilters
        exact eq_nil_of_faults (hc.pseudo p hp).2.2 hfilters
      next hlast =>
        have hnone : c.pseudo = none := by simp_all
        rw [hnone] at hextend
        refine yields_combinator?.bind fun combinator _ => ?_
        split
        · refine .pure ⟨nofun, fun hfaultless => ?_⟩
          rw [Selector.isFaultless, Bool.and_eq_true] at hfaultless
          exact ⟨(hextend hfaultless.1).1, (hextend hfaultless.1).2, nofun⟩
        · split
          · exact (Yields.refuse (Q := fun _ => False)).bind nofun
          next hsingle =>
            refine ih (.inr ⟨by simpa using hsingle, fun hfaultless => ?_⟩)
            exact (hextend hfaultless).2

theorem yields_entry (form : ListForm) :
    Yields (entry nested place form) (SelectorFits place (form = .relative)) := by
  refine Yields.get.bind fun vs hvs => ?_
  refine (Yields.set hvs.skipBlank).bind fun _ _ => ?_
  split
  next hform =>
    refine yields_combinator?.bind fun combinator _ => ?_
    exact Yields.get.bind fun us _ => yields_steps hnested _ (.inl ⟨rfl, by simp [hform]⟩)
  next hform =>
    exact Yields.get.bind fun us _ => yields_steps hnested _ (by simpa [LeftFits] using hform)

theorem entryOf_fits {form : ListForm} {s : Selector} (hvs : AllProper vs)
    (h : entryOf nested place form vs = .ok s) : SelectorFits place (form = .relative) s := by
  unfold entryOf at h
  split at h
  next hentry =>
    split at h
    · cases h
      exact (yields_entry hnested form _ _ _ hvs hentry).1
    · cases h
  · cases h

end Nested

/-! ## Lists -/

theorem sound_nestedList (depth : Nat) : Sound (nestedList depth) := by
  induction depth with
  | zero =>
    intro place form vs list _ _ h
    cases h
  | succ depth ih =>
    intro place form vs list hplace hvs h
    refine ⟨ne_nil_of_mapM h (pieces_ne_nil _ _), fun c hc hfaultless => ?_⟩
    obtain ⟨piece, hpiece, hread⟩ := exists_of_mem_mapM h hc
    split at hread
    next s hs =>
      cases hread
      have hfits := entryOf_fits ih (hvs.of_mem_pieces hpiece) hs
      -- In an argument no pseudo-element is named.
      have hpseudo : s.pseudo = none := by
        rw [Option.eq_none_iff_forall_ne_some]
        intro p hp
        simp [hfits.pseudo p hp] at hplace
      have hselector : s.isFaultless = true := by
        rw [Selector.isFaultless, hpseudo, hfaultless]
        rfl
      have hcomplex := hfits.fits hselector
      rw [hpseudo] at hcomplex
      exact ⟨hcomplex.1, hcomplex.2.1⟩
    next rest _ =>
      split at hread
      · cases hread
        cases hfaultless
      · cases hread

end SelectorReader

/-- Every selector of a list that is read from a text fits, unless it is at fault. -/
theorem Selector.fits_of_parseList? {text : String} {list : List Selector}
    (h : parseList? text = some list) :
    ∀ s ∈ list, s.isFaultless = true → s.Fits := by
  intro s hs hfaultless
  obtain ⟨piece, hpiece, hread⟩ := exists_entryOf h hs
  have hproper := (allProper_values text).of_mem_pieces hpiece
  have hfits := SelectorReader.entryOf_fits (SelectorReader.sound_nestedList _) hproper hread
  obtain ⟨-, hcomplex, hfilters⟩ := hfits.fits hfaultless
  exact ⟨hcomplex, hfilters⟩

end StyleTree
