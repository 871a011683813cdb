import Mathlib.Data.List.DropRight
import StyleTree.Proofs.Selector.Reread

/-!
# The text of a selector list is read again

Step by step along a complex selector, and by induction on the lists in the arguments: from the
values that a selector is spelled by, if it fits its place, the canonical one is read. So the text
of a selector list with nothing at fault is read as a list of the same text.
-/

namespace StyleTree

open Css Css.ComponentValue

namespace SelectorReader

variable {place : SelectorPlace} {after : List ComponentValue}

/-! ## Complex selectors -/

/-- The first compound of a selector, and all that follows it, in no more than `limit` steps. -/
def start (nested : NestedReader) (place : SelectorPlace) (relative : Bool) (limit : Nat) :
    SelectorReader Selector := do
  if relative then
    let combinator ← combinator?
    steps nested place limit (some (.anchor, combinator.getD .descendant))
  else steps nested place limit none

theorem start_of_relative {limit : Nat} :
    start nested place true limit = (do
      let combinator ← combinator?
      steps nested place limit (some (.anchor, combinator.getD .descendant))) :=
  rfl

/-- Where no white space comes first, a combinator is at most one value. -/
theorem combinator?_length {vs : List ComponentValue} (h : skipBlank vs = vs) :
    ∃ o rest, combinator? vs = .ok o rest ∧ vs.length ≤ rest.length + 1 := by
  unfold combinator?
  rw [get_bind, h]
  split
  · exact ⟨_, _, rfl, Nat.zero_le _⟩
  · exact ⟨_, _, rfl, Nat.le_refl _⟩
  · exact ⟨_, _, rfl, Nat.le_refl _⟩
  · exact ⟨_, _, rfl, Nat.le_refl _⟩
  · exact ⟨_, _, rfl, Nat.le_succ _⟩

/-- An entry is read from its first compound on, with steps for all its values. -/
theorem entry_eq_start (nested : NestedReader) (place : SelectorPlace) (form : ListForm)
    (vs : List ComponentValue) :
    ∃ limit, (skipBlank vs).length ≤ limit ∧
      entry nested place form vs = start nested place (form = .relative) limit (skipBlank vs) := by
  by_cases hform : form = .relative
  · subst hform
    have hskip : skipBlank (skipBlank vs) = skipBlank vs := List.dropWhile_idempotent _ vs
    obtain ⟨o, rest, hread, hlength⟩ := combinator?_length hskip
    refine ⟨rest.length + 1, hlength, ?_⟩
    show (combinator? >>= _) (skipBlank vs) = (combinator? >>= _) (skipBlank vs)
    rw [bind_ok hread, bind_ok hread]
    rfl
  · refine ⟨(skipBlank vs).length + 1, Nat.le_succ _, ?_⟩
    cases form with
    | relative => exact absurd rfl hform
    | strict | forgiving => rfl

/-- Wherever it fits, the simple selector is read as the canonical one, unless it is a type
selector: those are read with the compound. -/
def RereadsSimple (s : Simple) : Prop :=
  ∀ {place : SelectorPlace} {depth : Nat} {after : List ComponentValue},
    s.Fits place → s.isType = false → place.afterPseudo = false → depthOf s.values ≤ depth →
    part? (nestedList depth) place (s.values ++ after) = .ok (some (.simple s.canonical)) after

/-- Wherever it fits, the complex selector is read as the canonical one; then reading goes on, with
a step for every value that is left. -/
def RereadsComplex (c : Complex) : Prop :=
  ∀ {place : SelectorPlace} {relative : Bool} {p : Option PseudoElement} {depth limit : Nat}
    {after : List ComponentValue},
    c.Fits place relative p.isSome → place.afterPseudo = false →
    (p.isSome = true → place.nested = false) → depthOf (c.valuesBefore p.isSome) ≤ depth →
    EndsCompound after → (c.valuesBefore p.isSome ++ pseudoValues p).length ≤ limit →
    ∃ left, limit ≤ left + (c.valuesBefore p.isSome ++ pseudoValues p).length ∧
      start (nestedList depth) place relative limit
          (c.valuesBefore p.isSome ++ (pseudoValues p ++ after)) =
        goOn (nestedList depth) place left (c.canonicalBefore p.isSome) (p.map (·, [])) after

section Steps

variable {p : Option PseudoElement} {simples : List Simple} {depth limit : Nat}

theorem subset_compoundValues {universal : Bool} {s : Simple} (h : s ∈ shown universal simples) :
    s.values ⊆ compoundValues universal simples := by
  rw [compoundValues_eq_flatMap]
  exact fun v hv => List.mem_flatMap.mpr ⟨s, h, hv⟩

/-- One step reads one compound. -/
theorem steps_values (limit : Nat) (hread : ∀ s ∈ simples, RereadsSimple s)
    (h : CompoundFits place p.isSome simples) (hplace : place.afterPseudo = false)
    (hpseudo : p.isSome = true → place.nested = false)
    (hdepth : depthOf (compoundValues (showsUniversal simples p.isSome) simples) ≤ depth)
    {lead : List ComponentValue} (hlead : lead = [] ∨ lead = [space]) (hafter : EndsCompound after)
    (left : Option (Complex × Combinator)) :
    steps (nestedList depth) place (limit + 1) left (lead ++
        (compoundValues (showsUniversal simples p.isSome) simples ++ (pseudoValues p ++ after))) =
      goOn (nestedList depth) place limit
        (extend (canonicalCompound (showsUniversal simples p.isSome) simples) left)
        (p.map (·, [])) after := by
  obtain ⟨-, hnil, hfit⟩ := h.shown
  have hcompound := compound_values h hplace hpseudo
    (fun s hs htype _ => hread s (List.mem_filter.mp hs).1 (hfit s hs) htype hplace
      ((depthOf_le_of_subset (subset_compoundValues hs)).trans hdepth)) hlead hafter
  have hempty : CompoundParts.isEmpty
      ⟨canonicalCompound (showsUniversal simples p.isSome) simples, p.map (·, [])⟩ = false := by
    rw [canonicalCompound_eq_map]
    cases hshown : shown (showsUniversal simples p.isSome) simples with
    | nil =>
      obtain ⟨p, rfl⟩ := Option.isSome_iff_exists.mp (hnil hshown)
      rfl
    | cons s rest => rfl
  rw [steps_succ, bind_ok hcompound, hempty]
  rfl

/-- Reading goes on with the compound after a combinator. -/
theorem goOn_combinator {nested : NestedReader} (hplace : place.afterPseudo = false)
    (hsingle : place.single = false) {here : Complex} {c : Combinator}
    {vs rest : List ComponentValue} (h : combinator? vs = .ok (some c) rest) :
    goOn nested place limit here none vs = steps nested place limit (some (here, c)) rest := by
  unfold goOn
  rw [hplace]
  show (combinator? >>= _) vs = _
  rw [bind_ok h, hsingle]
  rfl

theorem rereads_compound (hread : ∀ s ∈ simples, RereadsSimple s) :
    RereadsComplex (.compound simples) := by
  intro place relative p depth limit after hfits hplace hpseudo hdepth hafter hlimit
  cases hfits with
  | compound h =>
    obtain ⟨-, -, -, -, hlength⟩ := opensCompound_append h after
    rw [Complex.valuesBefore] at hdepth hlimit ⊢
    rw [List.length_append] at hlimit ⊢
    obtain ⟨left, rfl⟩ : ∃ n, limit = n + 1 := Nat.exists_eq_add_one.mpr (by omega)
    exact ⟨left, by omega, steps_values left hread h hplace hpseudo hdepth (.inl rfl) hafter none⟩

theorem rereads_step (hread : ∀ s ∈ simples, RereadsSimple s) (c : Combinator) {left : Complex}
    (hleft : RereadsComplex left) : RereadsComplex (.step simples c left) := by
  intro place relative p depth limit after hfits hplace hpseudo hdepth hafter hlimit
  cases hfits with
  | first h =>
    obtain ⟨v, rest, hv, hvalues, hlength⟩ := opensCompound_append h after
    rw [Complex.valuesBefore, depthOf_append] at hdepth
    rw [Complex.valuesBefore, List.length_append, List.length_append] at hlimit ⊢
    obtain ⟨left, rfl⟩ : ∃ n, limit = n + 1 := Nat.exists_eq_add_one.mpr (by omega)
    refine ⟨left, by omega, ?_⟩
    -- No combinator in front stands for the one for descendants.
    obtain ⟨o, rfl, hcombinator⟩ := combinator?_leadingValues c hv rest
    rw [← hvalues] at hcombinator
    rw [List.append_assoc, start_of_relative, bind_ok hcombinator]
    exact steps_values left hread h hplace hpseudo (by omega) (combinatorLead_eq _) hafter _
  | step hsingle h hfits =>
    obtain ⟨v, rest, hv, hvalues, hlength⟩ := opensCompound_append h after
    have hanchor := hfits.ne_anchor
    rw [Complex.valuesBefore_step hanchor, depthOf_append, depthOf_append] at hdepth
    rw [Complex.valuesBefore_step hanchor] at hlimit ⊢
    simp only [List.length_append] at hlimit ⊢
    have hends : EndsCompound (c.values ++ v :: rest) := by
      cases c <;> exact .inr ⟨_, rfl⟩
    have hlengthLeft : (left.valuesBefore false ++ pseudoValues none).length ≤ limit := by
      rw [append_pseudoValues_none]
      omega
    obtain ⟨more, hmore, hgo⟩ := hleft (p := none) hfits hplace (fun h => by cases h)
      (show depthOf (left.valuesBefore false) ≤ depth by omega) hends hlengthLeft
    -- Reading the left side leaves a step for the compound, which has at least one value.
    rw [Option.isSome_none, append_pseudoValues_none] at hmore
    obtain ⟨more, rfl⟩ : ∃ n, more = n + 1 := Nat.exists_eq_add_one.mpr (by omega)
    refine ⟨more, by omega, ?_⟩
    have hcombinator := combinator?_values c hv rest
    have hdepth : depthOf (compoundValues (showsUniversal simples p.isSome) simples) ≤ depth := by
      omega
    have hread := steps_values more hread h hplace hpseudo hdepth (combinatorLead_eq c) hafter
      (some (left.canonicalBefore false, c))
    rw [hvalues] at hread
    rw [List.append_assoc, List.append_assoc, hvalues]
    exact hgo.trans ((goOn_combinator hplace hsingle hcombinator).trans hread)

end Steps

/-! ## Entries and lists -/

section Entries

variable {p : Option PseudoElement} {depth : Nat} {form : ListForm} {lead : List ComponentValue}

/-- A complex selector does not start with white space. -/
theorem opens_valuesBefore {relative : Bool} {c : Complex} (h : c.Fits place relative p.isSome) :
    ∃ v rest, v.isBlank = false ∧ c.valuesBefore p.isSome ++ pseudoValues p = v :: rest := by
  induction c using Complex.steps_induction generalizing p with
  | compound simples =>
    cases h with
    | compound h =>
      obtain ⟨v, rest, hv, hstart⟩ := opensCompound_values h
      exact ⟨v, rest, isBlank_of_opensCompound hv, hstart⟩
  | step simples c left ih =>
    cases h with
    | first h =>
      obtain ⟨v, rest, hv, hstart⟩ := opensCompound_values h
      rw [Complex.valuesBefore, List.append_assoc, hstart]
      cases c with
      | descendant => exact ⟨v, rest, isBlank_of_opensCompound hv, rfl⟩
      | child | nextSibling | laterSibling => exact ⟨_, _, rfl, rfl⟩
    | step _ _ hleft =>
      obtain ⟨v, rest, hv, hstart⟩ := ih (p := none) hleft
      rw [Option.isSome_none, append_pseudoValues_none] at hstart
      rw [Complex.valuesBefore_step hleft.ne_anchor, hstart]
      exact ⟨v, _, hv, rfl⟩
  | anchor => cases h

theorem goOn_nil (nested : NestedReader) (hplace : place.afterPseudo = false) (limit : Nat)
    (here : Complex) (p : Option PseudoElement) :
    goOn nested place limit here (p.map (·, [])) [] = .ok ⟨here, p.map (·, [])⟩ [] := by
  cases p with
  | none =>
    unfold goOn
    rw [hplace]
    rfl
  | some p => rfl

/-- A selector that fits its place is read to its end. -/
theorem entryOf_values {c : Complex} (hread : RereadsComplex c)
    (h : c.Fits place (form = .relative) p.isSome) (hplace : place.afterPseudo = false)
    (hpseudo : p.isSome = true → place.nested = false)
    (hdepth : depthOf (c.valuesBefore p.isSome) ≤ depth) (hlead : lead = [] ∨ lead = [space]) :
    entryOf (nestedList depth) place form (lead ++ (c.valuesBefore p.isSome ++ pseudoValues p)) =
      .ok ⟨c.canonicalBefore p.isSome, p.map (·, [])⟩ := by
  obtain ⟨v, rest, hv, hopens⟩ := opens_valuesBefore h
  have hskip : skipBlank (lead ++ (c.valuesBefore p.isSome ++ pseudoValues p)) =
      c.valuesBefore p.isSome ++ pseudoValues p := by
    rw [hopens]
    exact skipBlank_of_not_blank hv hlead rest
  obtain ⟨limit, hlimit, hentry⟩ := entry_eq_start (nestedList depth) place form
    (lead ++ (c.valuesBefore p.isSome ++ pseudoValues p))
  rw [hskip] at hlimit hentry
  -- After the selector there is nothing that reading could go on with.
  obtain ⟨left, -, hstart⟩ := hread h hplace hpseudo hdepth (.inl rfl) hlimit
  rw [List.append_nil] at hstart
  rw [entryOf, hentry, hstart, goOn_nil _ hplace]
  rfl

/-! No comma stands outside the blocks of a selector. -/

theorem noComma_values (s : Simple) : s.values.any (·.isToken .comma) = false := by
  cases s with
  | nth test =>
    rw [Simple.values]
    split <;> rfl
  | pseudoClass c => cases c <;> rfl
  | _ => rfl

theorem noComma_compoundValues (universal : Bool) (simples : List Simple) :
    (compoundValues universal simples).any (·.isToken .comma) = false := by
  rw [compoundValues_eq_flatMap, List.any_flatMap]
  simp [noComma_values]

theorem noComma_valuesBefore (c : Complex) (pseudo : Bool) :
    (c.valuesBefore pseudo).any (·.isToken .comma) = false := by
  induction c using Complex.steps_induction generalizing pseudo with
  | compound simples => exact noComma_compoundValues _ simples
  | step simples c left ih =>
    by_cases hanchor : left = .anchor
    · subst hanchor
      rw [Complex.valuesBefore, List.any_append, noComma_compoundValues]
      cases c <;> rfl
    · rw [Complex.valuesBefore_step hanchor, List.any_append, List.any_append, ih,
        noComma_compoundValues]
      cases c <;> rfl
  | anchor => rfl

/-- A list that fits its place is read as the canonical one. -/
theorem nestedList_values {list : List Complex} (hread : ∀ c ∈ list, RereadsComplex c)
    (h : ListFits place (form = .relative) list) (hplace : place.afterPseudo = false)
    (hdepth : depthOf (listValues list) ≤ depth) (hlead : lead = [] ∨ lead = [space]) :
    nestedList (depth + 1) place form (lead ++ listValues list) = some (canonicalList list) := by
  obtain ⟨hempty, hfit⟩ := h
  rw [listValues_eq_withCommas] at hdepth ⊢
  rw [canonicalList_eq_map]
  refine mapM_pieces_withCommas hempty hlead (fun c _ => ?_) fun c hc lead hlead => ?_
  · exact fun v hv =>
      Bool.eq_false_iff.mpr (List.any_eq_false.mp (noComma_valuesBefore c false) v hv)
  · -- All entries but the first have a space in front.
    have hsubset := subset_withCommas (List.mem_map_of_mem (f := (·.valuesBefore false)) hc)
    have hentry := entryOf_values (p := none) (hread c hc) (hfit c hc) hplace (fun h => by cases h)
      ((depthOf_le_of_subset hsubset).trans hdepth) hlead
    rw [Option.isSome_none, append_pseudoValues_none] at hentry
    rw [hentry]

end Entries

/-! ## Selectors -/

theorem depthOf_functionValues (word : String) (body : List ComponentValue) :
    depthOf (functionValues word body) = depthOf body + 1 := by
  simp [functionValues, colon, function, depthOf, ComponentValue.depth]

/-- A list in the argument of a pseudo-class is read with one block less to go into. -/
theorem nestedList_argument {depth : Nat} (inner : SelectorPlace) (form : ListForm)
    {list : List Complex} {lead : List ComponentValue} (hread : ∀ c ∈ list, RereadsComplex c)
    (h : ListFits inner (form = .relative) list) (hinner : inner.afterPseudo = false)
    (hlead : lead = [] ∨ lead = [space]) (hdepth : depthOf (listValues list) + 1 ≤ depth) :
    nestedList depth inner form (lead ++ listValues list) = some (canonicalList list) := by
  obtain ⟨depth, rfl⟩ : ∃ n, depth = n + 1 := Nat.exists_eq_add_one.mpr (by omega)
  exact nestedList_values hread h hinner (by omega) hlead

/-- A pseudo-class whose argument is a list and nothing else. -/
theorem part?_list {depth : Nat} (inner : SelectorPlace) (form : ListForm) {list : List Complex}
    {word : String} (make : List Complex → Simple) (hread : ∀ c ∈ list, RereadsComplex c)
    (h : ListFits inner (form = .relative) list) (hinner : inner.afterPseudo = false)
    (hlegacy : PseudoElement.isLegacyName word = false)
    (hfunction : ∀ body, functionalPseudoClass? (nestedList depth) place word body =
      (nestedList depth inner form body).map make)
    (hdepth : depthOf (functionValues word (listValues list)) ≤ depth) :
    part? (nestedList depth) place (functionValues word (listValues list) ++ after) =
      .ok (some (.simple (make (canonicalList list)))) after := by
  rw [depthOf_functionValues] at hdepth
  have hlist := nestedList_argument inner form hread h hinner (.inl rfl) hdepth
  rw [List.nil_append] at hlist
  refine part?_function hlegacy ?_
  rw [hfunction, hlist, Option.map_some]

theorem rereads_nthOf {list : List Complex} (hread : ∀ c ∈ list, RereadsComplex c)
    (test : NthTest) : RereadsSimple (.nthOf test list) := by
  intro place depth after hfits _ hplace hdepth
  cases hfits with
  | @nthOf _ side formula _ hside hformula h =>
    have hvalues : Simple.values (.nthOf ⟨side, false, formula, true⟩ list) =
        functionValues (side.word false true)
          (formula.values ++ space :: ident "of" :: space :: listValues list) := by
      rw [Simple.values]
      rfl
    rw [hvalues, depthOf_functionValues] at hdepth
    have hsubset : listValues list ⊆
        formula.values ++ space :: ident "of" :: space :: listValues list :=
      fun v hv => List.mem_append_right _ (by simp [hv])
    have hlist := nestedList_argument place.inner .strict hread h hplace (.inr rfl)
      ((Nat.succ_le_succ (depthOf_le_of_subset hsubset)).trans hdepth)
    rw [hvalues]
    refine part?_function (isLegacyName_word side false true) ?_
    exact (functionalPseudoClass?_nth hplace hside false formula _).trans
      (nthTest?_of hformula side hlist)

/-- The compound in the argument is read as a list of one. -/
theorem rereads_host {simples : List Simple} (hread : ∀ s ∈ simples, RereadsSimple s) :
    RereadsSimple (.host simples) := by
  intro place depth after hfits _ hplace hdepth
  cases hfits with
  | host h =>
    have hread : ∀ c ∈ [Complex.compound simples], RereadsComplex c := by
      intro c hc
      obtain rfl := List.mem_singleton.mp hc
      exact rereads_compound hread
    have hfits : ListFits { place.inner with single := true } false [.compound simples] := by
      refine ⟨List.cons_ne_nil _ _, fun c hc => ?_⟩
      obtain rfl := List.mem_singleton.mp hc
      exact .compound h
    have hvalues : Simple.values (.host simples) =
        functionValues "host" (listValues [.compound simples]) := by
      rw [Simple.values, listValues, Complex.valuesBefore]
    rw [hvalues, depthOf_functionValues] at hdepth
    have hlist := nestedList_argument { place.inner with single := true } .strict hread hfits
      hplace (.inl rfl) hdepth
    rw [List.nil_append] at hlist
    rw [hvalues]
    exact part?_function rfl (functionalPseudoClass?_host hplace hlist)

/-- Whatever fits its place is read again as what is canonical for it. -/
theorem hereditary_rereads : Hereditary RereadsSimple RereadsComplex where
  simple s harguments hhosted place depth after hfits htype hplace hdepth := by
    cases id hfits with
    | localName | universal | noNamespace => cases htype
    | id | className =>
      unfold part?
      rw [hplace]
      rfl
    | «attribute» h => exact part?_attribute h hplace
    | root | empty | scope => exact part?_word rfl hplace rfl
    | nth h =>
      cases h with
      | implied side ofType => cases side <;> cases ofType <;> exact part?_word rfl hplace rfl
      | @written side ofType formula hside hformula =>
        refine part?_function (isLegacyName_word side ofType true) ?_
        rw [functionalPseudoClass?_nth hplace hside, nthTest?_values hformula]
        rfl
    | nthOf => exact rereads_nthOf harguments _ hfits htype hplace hdepth
    | negation h =>
      exact part?_list place.inner .strict .negation harguments h hplace rfl (fun _ => rfl) hdepth
    | isAny h =>
      exact part?_list place.inner .forgiving .isAny harguments h hplace rfl (fun _ => rfl) hdepth
    | whereAny h =>
      exact part?_list place.inner .forgiving .whereAny harguments h hplace rfl (fun _ => rfl)
        hdepth
    | has hrelative h =>
      refine part?_list { place.inner with relative := true } .relative .has harguments h hplace
        rfl (fun body => ?_) hdepth
      exact (if_neg (by simp [hrelative])).trans (if_neg (by simp [hplace]))
    | host => exact rereads_host hhosted hfits htype hplace hdepth
    | pseudoClass h => exact part?_pseudoClass h hplace
  compound simples hsimples := rereads_compound hsimples
  step simples c left hsimples hleft := rereads_step hsimples c hleft
  anchor := by
    intro place relative p depth limit after h
    cases h

end SelectorReader

/-! ## Selector lists -/

namespace Selector

theorem noComma_values (s : Selector) : s.values.any (·.isToken .comma) = false := by
  rw [values, List.any_append, SelectorReader.noComma_valuesBefore]
  cases s.pseudoElement <;> rfl

/-- In an outermost list a selector that fits is read as the canonical one. -/
theorem entryOf_canonical {s : Selector} (h : s.Fits) {depth : Nat}
    (hdepth : depthOf s.values ≤ depth) {lead : List ComponentValue}
    (hlead : lead = [] ∨ lead = [space]) :
    SelectorReader.entryOf (SelectorReader.nestedList depth) ⟨false, false, false, false⟩ .strict
      (lead ++ s.values) = .ok s.canonical := by
  obtain ⟨complex, pseudo⟩ := s
  obtain ⟨hcomplex, hfilters⟩ := h
  have hread : SelectorReader.RereadsComplex complex :=
    SelectorReader.hereditary_rereads.of_complex complex
  have hsubset : complex.valuesBefore pseudo.isSome ⊆ values ⟨complex, pseudo⟩ :=
    List.subset_append_left _ _
  have hdepth := (depthOf_le_of_subset hsubset).trans hdepth
  cases pseudo with
  | none =>
    exact SelectorReader.entryOf_values (p := none) hread hcomplex rfl (fun _ => rfl) hdepth hlead
  | some p =>
    obtain ⟨p, filters⟩ := p
    obtain rfl : filters = [] := hfilters _ rfl
    exact SelectorReader.entryOf_values (p := some p) hread hcomplex rfl (fun _ => rfl) hdepth hlead

/-- A list of selectors that fit is read again as the list of the canonical ones. -/
theorem parseList?_canonical {list : List Selector} (hempty : list ≠ []) (h : ∀ s ∈ list, s.Fits) :
    parseList? (listText list) = some (list.map canonical) := by
  rw [parseList?, values_listText h]
  refine mapM_pieces_withCommas hempty (.inl rfl) (fun s _ => ?_) fun s hs lead hlead => ?_
  · exact fun v hv => Bool.eq_false_iff.mpr (List.any_eq_false.mp (noComma_values s) v hv)
  · have hsubset := subset_withCommas (List.mem_map_of_mem (f := values) hs)
    rw [entryOf_canonical (h s hs) (depthOf_le_of_subset hsubset) hlead]
    rfl

theorem listText_canonical (list : List Selector) :
    listText (list.map canonical) = listText list := by
  rw [listText, listText, List.map_map]
  exact congrArg _ (List.map_congr_left fun s _ => text_canonical s)

/-- The text of a list with nothing at fault is read again, as a list of the same text whose
selectors are as specific and select the same pseudo-elements, one by one. -/
theorem parseList?_listText {text : String} {list : List Selector} (h : parseList? text = some list)
    (hfaultless : ∀ s ∈ list, s.isFaultless = true) :
    ∃ again, parseList? (listText list) = some again ∧ listText again = listText list ∧
      again.length = list.length ∧ again.map specificity = list.map specificity ∧
      again.map pseudoElement = list.map pseudoElement := by
  have hempty : list ≠ [] := SelectorReader.ne_nil_of_mapM h (pieces_ne_nil _ _)
  have hfits : ∀ s ∈ list, s.Fits := fun s hs => fits_of_parseList? h s hs (hfaultless s hs)
  refine ⟨list.map canonical, parseList?_canonical hempty hfits, listText_canonical list,
    List.length_map canonical, ?_, ?_⟩
  · rw [List.map_map]
    exact List.map_congr_left fun s _ => specificity_canonical s
  · rw [List.map_map]
    exact List.map_congr_left fun s _ => pseudoElement_canonical s

/-- A universal selector that says nothing, a single colon and capitals are written otherwise once,
and then never again. -/
theorem parseList?_listText_rewritten :
    ∃ list, parseList? "*.a > P:Before, :not(*|b, :nth-child(2N - 1 of *#c))" = some list ∧
      listText list = ".a > P::before, :not(b, :nth-child(2n-1 of #c))" ∧
      (∀ s ∈ list, s.isFaultless = true) ∧
      ∃ again, parseList? (listText list) = some again ∧ listText again = listText list ∧
        again.length = list.length ∧ again.map specificity = list.map specificity ∧
        again.map pseudoElement = list.map pseudoElement := by
  have hread : (parseList? "*.a > P:Before, :not(*|b, :nth-child(2N - 1 of *#c))").any
      (fun list => listText list == ".a > P::before, :not(b, :nth-child(2n-1 of #c))" &&
        list.all (·.isFaultless)) = true := by
    decide +kernel
  obtain ⟨list, hlist, htrue⟩ := (Option.any_eq_true _ _).mp hread
  obtain ⟨htext, hfaultless⟩ := Bool.and_eq_true_iff.mp htrue
  have hfaultless := List.all_eq_true.mp hfaultless
  exact ⟨list, hlist, eq_of_beq htext, hfaultless, parseList?_listText hlist hfaultless⟩

end Selector

end StyleTree
