import StyleTree.Proofs.Selector.Readers
import StyleTree.Proofs.Selector.Spelling

/-!
# Compounds are read as they are spelled

Reader by reader, from the names to the compounds: from the values that a compound is spelled by the
canonical one is read, if its simple selectors are. Nothing that follows them is.
-/

namespace StyleTree

open Css Css.ComponentValue

namespace SelectorReader

theorem bind_ok {α β : Type} {x : SelectorReader α} {f : α → SelectorReader β}
    {vs us : List ComponentValue} {a : α} (h : x vs = .ok a us) : (x >>= f) vs = f a us := by
  show EStateM.bind x f vs = _
  rw [EStateM.bind, h]

theorem get_bind {β : Type} (f : List ComponentValue → SelectorReader β)
    (vs : List ComponentValue) :
    ((get : SelectorReader (List ComponentValue)) >>= f) vs = f vs vs :=
  rfl

variable {nested : NestedReader} {place : SelectorPlace} {after : List ComponentValue}

/-! ## Where a part starts and a compound ends -/

/-- A part of a compound starts with the value. -/
inductive OpensPart : ComponentValue → Prop where
  | idHash (name : String) (text : List Char) (complete : Bool) :
    OpensPart (.token ⟨.idHash name, text, complete⟩)
  | dot : OpensPart (delim '.')
  | square (body : List ComponentValue) : OpensPart (square body)
  | colon : OpensPart colon

/-- No part of a compound comes next. -/
def EndsCompound (after : List ComponentValue) : Prop :=
  after = [] ∨ ∃ rest, after = space :: rest

/-- No namespace separator comes next. -/
def EndsType (after : List ComponentValue) : Prop :=
  EndsCompound after ∨ ∃ v rest, after = v :: rest ∧ OpensPart v

theorem typeName?_of_opensPart {v : ComponentValue} (h : OpensPart v)
    (rest : List ComponentValue) : typeName? (v :: rest) = .ok none (v :: rest) := by
  cases h <;> rfl

theorem typeName?_ident {name : String} (h : EndsType after) :
    typeName? (ident name :: after) = .ok (some (false, some name)) after := by
  rcases h with (rfl | ⟨rest, rfl⟩) | ⟨v, rest, rfl, hv⟩
  · rfl
  · rfl
  · cases hv <;> rfl

theorem typeName?_universal (h : EndsType after) :
    typeName? (delim '*' :: after) = .ok (some (false, none)) after := by
  rcases h with (rfl | ⟨rest, rfl⟩) | ⟨v, rest, rfl, hv⟩
  · rfl
  · rfl
  · cases hv <;> rfl

theorem typeName?_prefixed_ident (name : String) :
    typeName? (delim '|' :: ident name :: after) = .ok (some (true, some name)) after :=
  rfl

theorem typeName?_prefixed_universal :
    typeName? (delim '|' :: delim '*' :: after) = .ok (some (true, none)) after :=
  rfl

theorem part?_endsCompound (h : EndsCompound after) :
    part? nested place after = .ok none after := by
  rcases h with rfl | ⟨rest, rfl⟩ <;> rfl

/-! ## Pseudo-classes and pseudo-elements -/

theorem part?_word {word : String} {s : Simple} (hlegacy : PseudoElement.isLegacyName word = false)
    (hplace : place.afterPseudo = false) (h : simplePseudoClass? word = some s) :
    part? nested place (wordValues word ++ after) = .ok (some (.simple s)) after := by
  have hpart : pseudoPart? nested place false word none = some (.simple s) := by
    simp [pseudoPart?, hlegacy, hplace, h]
  show (some <$> ofOption (pseudoPart? nested place false word none) :
    SelectorReader (Option Part)) after = _
  rw [hpart]
  rfl

theorem part?_function {word : String} {body : List ComponentValue} {s : Simple}
    (hlegacy : PseudoElement.isLegacyName word = false)
    (h : functionalPseudoClass? nested place word body = some s) :
    part? nested place (functionValues word body ++ after) = .ok (some (.simple s)) after := by
  have hpart : pseudoPart? nested place false word (some body) = some (.simple s) := by
    simp [pseudoPart?, hlegacy, h]
  show (some <$> ofOption (pseudoPart? nested place false word (some body)) :
    SelectorReader (Option Part)) after = _
  rw [hpart]
  rfl

theorem part?_pseudoElement (hnested : place.nested = false) (hplace : place.afterPseudo = false)
    (p : PseudoElement) :
    part? nested place (p.values ++ after) = .ok (some (.pseudoElement p)) after := by
  have hpart : pseudoPart? nested place true p.name none = some (.pseudoElement p) := by
    have hname : PseudoElement.ofName? p.name = some p := by cases p <;> decide
    simp [pseudoPart?, hnested, hplace, hname]
  show (some <$> ofOption (pseudoPart? nested place true p.name none) :
    SelectorReader (Option Part)) after = _
  rw [hpart]
  rfl

theorem langRanges?_values {ranges : List String} (h : ranges ≠ []) :
    langRanges? (withCommas (ranges.map fun r => [ident r])) = some ranges := by
  have hcomma : ∀ r ∈ ranges, ∀ v ∈ [ident r], v.isToken .comma = false := by
    intro r _ v hv
    obtain rfl := List.mem_singleton.mp hv
    rfl
  have hread : langRanges? ([] ++ withCommas (ranges.map fun r => [ident r])) =
      some (ranges.map id) := by
    unfold langRanges?
    refine mapM_pieces_withCommas h (.inl rfl) hcomma ?_
    rintro r - lead (rfl | rfl) <;> rfl
  rwa [List.map_id] at hread

theorem ofName_word (s : String) :
    DirArgument.ofName (DirArgument.ofName s).word = DirArgument.ofName s := by
  by_cases hltr : Ascii.eqIgnoreCase s "ltr" = true
  · rw [show DirArgument.ofName s = .ltr from if_pos hltr]
    decide
  by_cases hrtl : Ascii.eqIgnoreCase s "rtl" = true
  · rw [show DirArgument.ofName s = .rtl from (if_neg hltr).trans (if_pos hrtl)]
    decide
  · have hother : DirArgument.ofName s = .other s := (if_neg hltr).trans (if_neg hrtl)
    rw [hother, DirArgument.word, hother]

theorem part?_pseudoClass {c : PseudoClass} (h : c.Fits) (hplace : place.afterPseudo = false) :
    part? nested place (c.values ++ after) = .ok (some (.simple (.pseudoClass c))) after := by
  cases c with
  | lang ranges =>
    refine part?_function rfl ?_
    show (if place.afterPseudo then none else (langRanges? _).map _) = _
    rw [hplace, langRanges?_values h.1]
    rfl
  | dir argument =>
    refine part?_function rfl ?_
    show (if place.afterPseudo then none else some (Simple.pseudoClass (.dir (.ofName _)))) = _
    obtain ⟨s, -, rfl⟩ := h
    rw [hplace, ofName_word]
    rfl
  | customState name =>
    refine part?_function rfl ?_
    show (if place.afterPseudo then none else _) = _
    rw [hplace]
    rfl
  | _ => exact part?_word rfl hplace rfl

/-! ## Attribute selectors -/

theorem attributeName_values {t : AttributeTest} :
    attributeName t.values = .ok (t.anyNamespace, t.name) (t.comparison.elim [] (·.values)) := by
  obtain ⟨_ | _, name, _ | ⟨operator, value, rule⟩⟩ := t
  · rfl
  · cases operator <;> rfl
  · rfl
  · rfl

theorem caseRule?_values {t : AttributeTest} (h : t.Fits) {c : AttributeComparison}
    (hc : t.comparison = some c) :
    caseRule? t.anyNamespace t.name c.case.values = some (c.case, []) := by
  have hrule := h.rule c hc
  cases hcase : c.case with
  | insensitive => rfl
  | explicitSensitive => rfl
  | sensitive | insensitiveOnHtml =>
    rw [hcase] at hrule
    exact (hrule.resolve_left nofun).resolve_left nofun

theorem attributeTest_values {t : AttributeTest} (h : t.Fits) :
    attributeTest t.values = .ok t [] := by
  unfold attributeTest
  rw [bind_ok attributeName_values]
  obtain ⟨anyNamespace, name, _ | ⟨operator, value, rule⟩⟩ := t
  · rfl
  · have hrule : caseRule? anyNamespace name rule.values = some (rule, []) :=
      caseRule?_values h rfl
    cases operator
    all_goals
      show (ofOption (caseRule? anyNamespace name rule.values) >>= _) _ = _
      rw [hrule]
      rfl

theorem part?_attribute {t : AttributeTest} (h : t.Fits) (hplace : place.afterPseudo = false) :
    part? nested place (square t.values :: after) = .ok (some (.simple (.attribute t))) after := by
  have hnext : next? (square t.values :: after) = .ok (some (square t.values)) after := rfl
  unfold part?
  rw [get_bind, bind_ok hnext]
  dsimp only [square]
  rw [hplace, attributeTest_values h]
  rfl

/-! ## Positions -/

theorem isLegacyName_word (side : NthSide) (ofType written : Bool) :
    PseudoElement.isLegacyName (side.word ofType written) = false := by
  cases side <;> cases ofType <;> cases written <;> decide

theorem functionalPseudoClass?_nth (hplace : place.afterPseudo = false) {side : NthSide}
    (hside : side ≠ .only) (ofType : Bool) (formula : AnPlusB) (body : List ComponentValue) :
    functionalPseudoClass? nested place (NthTest.word ⟨side, ofType, formula, true⟩) body =
      nthTest? nested place side ofType body := by
  cases side with
  | only => exact absurd rfl hside
  | first | last =>
    cases ofType <;>
      simp [NthTest.word, NthSide.word, functionalPseudoClass?, hplace, Ascii.lower]

theorem functionalPseudoClass?_host (hplace : place.afterPseudo = false)
    {body : List ComponentValue} {simples : List Simple}
    (h : nested { place.inner with single := true } .strict body = some [.compound simples]) :
    functionalPseudoClass? nested place "host" body = some (.host simples) := by
  have h : nested ⟨true, place.relative, place.afterPseudo, true⟩ .strict body =
      some [.compound simples] := h
  rw [hplace] at h
  simp [functionalPseudoClass?, hplace, Ascii.lower, h]

theorem nthTest?_values {formula : AnPlusB} (h : formula.Fits) (side : NthSide) (ofType : Bool) :
    nthTest? nested place side ofType formula.values =
      some (.nth ⟨side, ofType, formula, true⟩) := by
  have hread : AnPlusB.read? (formula.values ++ []) = some (formula, []) :=
    AnPlusB.read?_values h rfl
  rw [List.append_nil] at hread
  rw [nthTest?, hread]
  rfl

theorem nthTest?_of {formula : AnPlusB} (h : formula.Fits) (side : NthSide)
    {body : List ComponentValue} {list : List Complex}
    (hlist : nested place.inner .strict (space :: body) = some list) :
    nthTest? nested place side false
        (formula.values ++ space :: ident "of" :: space :: body) =
      some (.nthOf ⟨side, false, formula, true⟩ list) := by
  rw [nthTest?, AnPlusB.read?_values h rfl]
  show (nested place.inner .strict (space :: body)).map _ = _
  rw [hlist]
  rfl

/-! ## Compounds -/

/-- A compound starts with the value. -/
inductive OpensCompound : ComponentValue → Prop where
  | part {v : ComponentValue} (h : OpensPart v) : OpensCompound v
  | ident (name : String) : OpensCompound (ident name)
  | universal : OpensCompound (delim '*')
  | bar : OpensCompound (delim '|')

theorem isBlank_of_opensCompound {v : ComponentValue} (h : OpensCompound v) :
    v.isBlank = false := by
  cases h with
  | part h => cases h <;> rfl
  | _ => rfl

theorem skipBlank_of_not_blank {v : ComponentValue} (h : v.isBlank = false)
    {lead : List ComponentValue} (hlead : lead = [] ∨ lead = [space])
    (rest : List ComponentValue) : skipBlank (lead ++ v :: rest) = v :: rest := by
  have hskip : skipBlank (v :: rest) = v :: rest := by
    simp [skipBlank, h]
  rcases hlead with rfl | rfl
  · exact hskip
  · exact hskip

theorem opensPart_values {s : Simple} (h : s.Fits place) (htype : s.isType = false) :
    ∃ v rest, s.values = v :: rest ∧ OpensPart v := by
  cases h with
  | localName | universal | noNamespace => cases htype
  | id => exact ⟨_, _, rfl, .idHash _ _ _⟩
  | className => exact ⟨_, _, rfl, .dot⟩
  | «attribute» => exact ⟨_, _, rfl, .square _⟩
  | nth h => cases h <;> exact ⟨_, _, rfl, .colon⟩
  | @pseudoClass _ c => cases c <;> exact ⟨_, _, rfl, .colon⟩
  | _ => exact ⟨_, _, rfl, .colon⟩

/-- The values of the pseudo-element at the end of a compound, if there is one. -/
def pseudoValues (p : Option PseudoElement) : List ComponentValue :=
  p.elim [] PseudoElement.values

theorem append_pseudoValues_none (vs : List ComponentValue) : vs ++ pseudoValues none = vs :=
  List.append_nil vs

section Compound

variable {p : Option PseudoElement}

/-- The simple selectors and the pseudo-element are read one after the other. -/
theorem parts_values {simples : List Simple} (hplace : place.afterPseudo = false)
    (hpseudo : p.isSome = true → place.nested = false)
    (hparts : ∀ s ∈ simples, ∀ after,
      part? nested place (s.values ++ after) = .ok (some (.simple s.canonical)) after)
    (hvalues : ∀ s ∈ simples, s.values ≠ []) (hafter : EndsCompound after) {limit : Nat}
    (hlimit : (simples.flatMap (·.values) ++ pseudoValues p).length ≤ limit) :
    parts nested limit place (simples.flatMap (·.values) ++ (pseudoValues p ++ after)) =
      .ok ⟨simples.map (·.canonical), p.map (·, [])⟩ after := by
  -- Every part takes at least one value, so there are steps for all of them.
  induction simples generalizing limit with
  | nil =>
    have hend : ∀ place limit, parts nested limit place after = .ok ⟨[], none⟩ after := by
      intro place limit
      cases limit with
      | zero => rfl
      | succ limit =>
        rw [parts, bind_ok (part?_endsCompound hafter)]
        rfl
    cases p with
    | none => exact hend place limit
    | some p =>
      obtain ⟨limit, rfl⟩ : ∃ n, limit = n + 1 := Nat.exists_eq_add_one.mpr (by
        simp [pseudoValues, PseudoElement.values] at hlimit
        omega)
      show parts nested (limit + 1) place (p.values ++ after) = _
      rw [parts, bind_ok (part?_pseudoElement (hpseudo rfl) hplace p)]
      show (parts nested limit _ >>= _) after = _
      rw [bind_ok (hend _ limit)]
      rfl
  | cons s rest ih =>
    obtain ⟨hs, hrest⟩ := List.forall_mem_cons.mp hparts
    obtain ⟨hvs, hvrest⟩ := List.forall_mem_cons.mp hvalues
    have hpos : 0 < s.values.length := List.length_pos_iff.mpr hvs
    obtain ⟨limit, rfl⟩ : ∃ n, limit = n + 1 := Nat.exists_eq_add_one.mpr (by
      simp at hlimit
      omega)
    have hlimit : (rest.flatMap (·.values) ++ pseudoValues p).length ≤ limit := by
      simp at hlimit ⊢
      omega
    have hmore := ih hrest hvrest hlimit
    rw [List.flatMap_cons, List.append_assoc, parts, bind_ok (hs _)]
    show (parts nested limit place >>= _) _ = _
    rw [bind_ok hmore]
    rfl

/-- The type selector in front is read, if there is one. -/
theorem typeName?_values (type : Option (Bool × Option String)) (h : EndsType after) :
    typeName? ((type.elim [] typeSimples).flatMap (·.values) ++ after) = .ok type after := by
  obtain _ | ⟨_ | _, _ | name⟩ := type
  · rcases h with (rfl | ⟨rest, rfl⟩) | ⟨v, rest, rfl, hv⟩
    · rfl
    · rfl
    · exact typeName?_of_opensPart hv rest
  · exact typeName?_universal h
  · exact typeName?_ident h
  · exact typeName?_prefixed_universal
  · exact typeName?_prefixed_ident name

theorem endsType_parts {simples : List Simple} (hfit : ∀ s ∈ simples, s.Fits place)
    (htype : ∀ s ∈ simples, s.isType = false) (hafter : EndsCompound after) :
    EndsType (simples.flatMap (·.values) ++ (pseudoValues p ++ after)) := by
  cases simples with
  | nil =>
    cases p with
    | none => exact .inl hafter
    | some p => exact .inr ⟨_, _, rfl, .colon⟩
  | cons s rest =>
    obtain ⟨v, vs, hvs, hv⟩ := opensPart_values (hfit s List.mem_cons_self)
      (htype s List.mem_cons_self)
    rw [List.flatMap_cons, hvs]
    exact .inr ⟨v, _, rfl, hv⟩

/-- A compound that fits has something to start with. -/
theorem opensCompound_values {simples : List Simple} (h : CompoundFits place p.isSome simples) :
    ∃ v rest, OpensCompound v ∧
      compoundValues (showsUniversal simples p.isSome) simples ++ pseudoValues p = v :: rest := by
  obtain ⟨-, hempty, hfit⟩ := h.shown
  rw [compoundValues_eq_flatMap]
  cases hshown : shown (showsUniversal simples p.isSome) simples with
  | nil =>
    obtain ⟨p, rfl⟩ := Option.isSome_iff_exists.mp (hempty hshown)
    exact ⟨_, _, .part .colon, rfl⟩
  | cons s rest =>
    rw [List.flatMap_cons]
    have hs := hfit s (hshown ▸ List.mem_cons_self)
    cases htype : s.isType with
    | false =>
      obtain ⟨v, vs, hvs, hv⟩ := opensPart_values hs htype
      rw [hvs]
      exact ⟨v, _, .part hv, rfl⟩
    | true =>
      cases s with
      | localName name => exact ⟨_, _, .ident name, rfl⟩
      | universal => exact ⟨_, _, .universal, rfl⟩
      | noNamespace => exact ⟨_, _, .bar, rfl⟩
      | _ => cases htype

/-- What comes next has at least one value of the compound in front. -/
theorem opensCompound_append {simples : List Simple} (h : CompoundFits place p.isSome simples)
    (after : List ComponentValue) :
    ∃ v rest, OpensCompound v ∧
      compoundValues (showsUniversal simples p.isSome) simples ++ (pseudoValues p ++ after) =
        v :: rest ∧
      0 < (compoundValues (showsUniversal simples p.isSome) simples).length +
        (pseudoValues p).length := by
  obtain ⟨v, rest, hv, hstart⟩ := opensCompound_values h
  refine ⟨v, rest ++ after, hv, ?_, ?_⟩
  · rw [← List.append_assoc, hstart, List.cons_append]
  · rw [← List.length_append, hstart]
    exact Nat.zero_lt_succ _

/-- A compound is read as the canonical one, and nothing after it is. -/
theorem compound_values {simples : List Simple} (h : CompoundFits place p.isSome simples)
    (hplace : place.afterPseudo = false) (hpseudo : p.isSome = true → place.nested = false)
    (hparts : ∀ s ∈ shown (showsUniversal simples p.isSome) simples, s.isType = false → ∀ after,
      part? nested place (s.values ++ after) = .ok (some (.simple s.canonical)) after)
    {lead : List ComponentValue} (hlead : lead = [] ∨ lead = [space])
    (hafter : EndsCompound after) :
    compound nested place (lead ++
        (compoundValues (showsUniversal simples p.isSome) simples ++ (pseudoValues p ++ after))) =
      .ok ⟨canonicalCompound (showsUniversal simples p.isSome) simples, p.map (·, [])⟩ after := by
  obtain ⟨v, rest, hv, hstart, -⟩ := opensCompound_append h after
  have hskip : skipBlank (lead ++ (compoundValues (showsUniversal simples p.isSome) simples ++
      (pseudoValues p ++ after))) = compoundValues (showsUniversal simples p.isSome) simples ++
        (pseudoValues p ++ after) := by
    rw [hstart]
    exact skipBlank_of_not_blank (isBlank_of_opensCompound hv) hlead rest
  show (do
    let type ← typeName?
    if type.isSome && place.afterPseudo then refuse
    let more ← parts nested (← get).length place
    return (⟨type.elim [] typeSimples ++ more.simples, more.pseudo⟩ : CompoundParts) :
    SelectorReader CompoundParts) (skipBlank _) = _
  -- What is written is a type selector, perhaps, and parts: each is read by a reader of its own.
  obtain ⟨⟨type, others, hshown, htype⟩, -, hfit⟩ := h.shown
  rw [hskip, compoundValues_eq_flatMap, canonicalCompound_eq_map, hshown, List.flatMap_append,
    List.append_assoc, List.map_append]
  rw [hshown] at hfit hparts
  have hothers : ∀ s ∈ others, s ∈ type.elim [] typeSimples ++ others :=
    fun s hs => List.mem_append_right _ hs
  have hfit : ∀ s ∈ others, s.Fits place := fun s hs => hfit s (hothers s hs)
  have hcanonical : (type.elim [] typeSimples).map (·.canonical) = type.elim [] typeSimples := by
    obtain _ | ⟨_ | _, _ | name⟩ := type <;> rfl
  have hnonempty : ∀ s ∈ others, s.values ≠ [] := by
    intro s hs hnil
    obtain ⟨v, vs, hvs, -⟩ := opensPart_values (hfit s hs) (htype s hs)
    rw [hnil] at hvs
    cases hvs
  have hlimit : (others.flatMap (·.values) ++ pseudoValues p).length ≤
      (others.flatMap (·.values) ++ (pseudoValues p ++ after)).length := by
    simp
  have hread := parts_values hplace hpseudo (fun s hs => hparts s (hothers s hs) (htype s hs))
    hnonempty hafter hlimit
  rw [bind_ok (typeName?_values type (endsType_parts hfit htype hafter)), hplace, Bool.and_false,
    hcanonical]
  show (parts nested _ place >>= _) _ = _
  rw [bind_ok hread]
  rfl

end Compound

/-! ## Combinators -/

/-- The white space after a combinator, which is left for the compound. -/
def combinatorLead : Combinator → List ComponentValue
  | .descendant => []
  | _ => [space]

theorem combinatorLead_eq (c : Combinator) :
    combinatorLead c = [] ∨ combinatorLead c = [space] := by
  cases c <;> simp [combinatorLead]

theorem combinator?_values (c : Combinator) {v : ComponentValue} (h : OpensCompound v)
    (rest : List ComponentValue) :
    combinator? (c.values ++ v :: rest) = .ok (some c) (combinatorLead c ++ v :: rest) := by
  cases c with
  | descendant =>
    cases h with
    | part h => cases h <;> rfl
    | _ => rfl
  | _ => rfl

/-- At the start of a relative selector the combinator for descendants is left out. -/
theorem combinator?_leadingValues (c : Combinator) {v : ComponentValue} (h : OpensCompound v)
    (rest : List ComponentValue) :
    ∃ o : Option Combinator, o.getD .descendant = c ∧
      combinator? (c.leadingValues ++ v :: rest) = .ok o (combinatorLead c ++ v :: rest) := by
  cases c with
  | descendant =>
    refine ⟨none, rfl, ?_⟩
    cases h with
    | part h => cases h <;> rfl
    | _ => rfl
  | child => exact ⟨some .child, rfl, rfl⟩
  | nextSibling => exact ⟨some .nextSibling, rfl, rfl⟩
  | laterSibling => exact ⟨some .laterSibling, rfl, rfl⟩

end SelectorReader

end StyleTree
