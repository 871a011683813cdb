import StyleTree.Proofs.Selector.RoundTrip

/-!
# Pseudo-classes that are written

Whatever pseudo-class occurs in a selector that was read, perhaps in an argument, its text is a
selector, and is read as the pseudo-class. There is one exception: an empty string may be a language
range, but is written as nothing at all.
-/

namespace StyleTree

open Css Css.ComponentValue

/-! ## Occurrences -/

mutual

/-- The pseudo-class occurs in the simple selector, perhaps in its argument. -/
inductive Simple.Mentions (c : PseudoClass) : Simple → Prop where
  | here : Simple.Mentions c (.pseudoClass c)
  | argument {s : Simple} {d : Complex} (hd : d ∈ s.arguments) (h : Complex.Mentions c d) :
    Simple.Mentions c s
  | hosted {s t : Simple} (ht : t ∈ s.hosted) (h : Simple.Mentions c t) : Simple.Mentions c s

/-- The pseudo-class occurs in one of the compounds. -/
inductive Complex.Mentions (c : PseudoClass) : Complex → Prop where
  | compound {simples : List Simple} {s : Simple} (hs : s ∈ simples) (h : Simple.Mentions c s) :
    Complex.Mentions c (.compound simples)
  | step {simples : List Simple} {combinator : Combinator} {left : Complex} {s : Simple}
    (hs : s ∈ simples) (h : Simple.Mentions c s) :
    Complex.Mentions c (.step simples combinator left)
  | left {simples : List Simple} {combinator : Combinator} {left : Complex}
    (h : Complex.Mentions c left) : Complex.Mentions c (.step simples combinator left)

end

/-- The pseudo-class occurs in the selector, perhaps after a pseudo-element. -/
def Selector.Mentions (c : PseudoClass) (s : Selector) : Prop :=
  s.complex.Mentions c ∨ ∃ p ∈ s.pseudo, ∃ t ∈ p.2, Simple.Mentions c t

/-! ## What is read -/

/-- What a pseudo-class may say that is read from a text: its language ranges hold no null
character, and its identifier is one. -/
def PseudoClass.IsRead : PseudoClass → Prop
  | .lang ranges => ranges ≠ [] ∧ ∀ r ∈ ranges, '\x00' ∉ r.toList
  | .dir argument => ∃ s, IsName s ∧ argument = .ofName s
  | .customState name => IsName name
  | _ => True

theorem PseudoClass.Fits.isRead {c : PseudoClass} (h : c.Fits) : c.IsRead := by
  cases c with
  | lang ranges => exact ⟨h.1, fun r hr => (h.2 r hr).2⟩
  | dir argument => exact h
  | customState name => exact h
  | _ => trivial

/-- Every pseudo-class that occurs in the simple selector can be read. -/
def Simple.IsRead (s : Simple) : Prop :=
  ∀ c, Simple.Mentions c s → c.IsRead

/-- Every pseudo-class that occurs in the complex selector can be read. -/
def Complex.IsRead (d : Complex) : Prop :=
  ∀ c, d.Mentions c → c.IsRead

theorem Simple.IsRead.mk {s : Simple} (hself : ∀ c, s = .pseudoClass c → c.IsRead)
    (harguments : ∀ d ∈ s.arguments, d.IsRead) (hhosted : ∀ t ∈ s.hosted, t.IsRead) : s.IsRead := by
  intro c h
  cases h with
  | here => exact hself c rfl
  | argument hd h => exact harguments _ hd c h
  | hosted ht h => exact hhosted _ ht c h

theorem Complex.IsRead.compound {simples : List Simple} (h : ∀ s ∈ simples, s.IsRead) :
    (Complex.compound simples).IsRead := by
  intro c hc
  cases hc with
  | compound hs hc => exact h _ hs c hc

theorem Complex.IsRead.of_compound {simples : List Simple} (h : (Complex.compound simples).IsRead) :
    ∀ s ∈ simples, s.IsRead :=
  fun _ hs c hc => h c (.compound hs hc)

theorem Complex.IsRead.step {simples : List Simple} {combinator : Combinator} {left : Complex}
    (h : ∀ s ∈ simples, s.IsRead) (hleft : left.IsRead) :
    (Complex.step simples combinator left).IsRead := by
  intro c hc
  cases hc with
  | step hs hc => exact h _ hs c hc
  | left hc => exact hleft c hc

theorem Complex.IsRead.anchor : Complex.anchor.IsRead := nofun

/-- Every pseudo-class that occurs in the selector can be read. -/
def Selector.IsRead (s : Selector) : Prop :=
  s.complex.IsRead ∧ ∀ p ∈ s.pseudo, ∀ t ∈ p.2, Simple.IsRead t

theorem Selector.IsRead.of_mentions {s : Selector} {c : PseudoClass} (h : s.IsRead)
    (hc : s.Mentions c) : c.IsRead := by
  rcases hc with hc | ⟨p, hp, t, ht, hc⟩
  · exact h.1 c hc
  · exact h.2 p hp t ht c hc

namespace SelectorReader

/-- Every pseudo-class that occurs in the parts can be read. -/
def CompoundParts.IsRead (c : CompoundParts) : Prop :=
  (∀ s ∈ c.simples, s.IsRead) ∧ ∀ p ∈ c.pseudo, ∀ s ∈ p.2, s.IsRead

/-- Whatever occurs in a nested list can be read. -/
def Reads (nested : NestedReader) : Prop :=
  ∀ place form vs list, AllProper vs → nested place form vs = some list → ∀ d ∈ list, d.IsRead

theorem simplePseudoClass?_isRead {name : String} {s : Simple}
    (h : simplePseudoClass? name = some s) : s.IsRead := by
  unfold simplePseudoClass? at h
  split at h
  case h_10 =>
    obtain ⟨c, hc, rfl⟩ := Option.map_eq_some_iff.mp h
    refine .mk ?_ nofun nofun
    rintro _ ⟨⟩
    exact (ofName?_fits hc).isRead
  all_goals
    cases h
    exact .mk nofun nofun nofun

theorem isRead_of_mem_type {type : Option (Bool × Option String)} {s : Simple}
    (hs : s ∈ type.elim [] typeSimples) : s.IsRead := by
  obtain _ | ⟨noNamespace, name⟩ := type
  · cases hs
  have hs : s ∈ (if noNamespace then [Simple.noNamespace] else []) ++
      [name.elim .universal .localName] := hs
  rcases List.mem_append.mp hs with hs | hs
  · split at hs
    · obtain rfl := List.mem_singleton.mp hs
      exact .mk nofun nofun nofun
    · cases hs
  · obtain rfl := List.mem_singleton.mp hs
    cases name <;> exact .mk nofun nofun nofun

section Nested

variable {nested : NestedReader} (hnested : Reads nested) {place : SelectorPlace}
  {vs : List ComponentValue}

include hnested

theorem nthTest?_isRead {side : NthSide} {ofType : Bool} {s : Simple} (hvs : AllProper vs)
    (h : nthTest? nested place side ofType vs = some s) : s.IsRead := by
  unfold nthTest? at h
  split at h
  · cases h
  next formula rest hread =>
    split at h
    · cases h
      exact .mk nofun nofun nofun
    split at h
    · cases h
    split at h
    next rest' hof =>
      obtain ⟨list, hlist, rfl⟩ := Option.map_eq_some_iff.mp h
      have hrest := hvs.of_suffix (AnPlusB.read?_spec hvs hread).2
      exact .mk nofun (hnested _ _ _ _ (hrest.of_suffix (keyword?_suffix hrest hof)) hlist) nofun
    · cases h

theorem functionalPseudoClass?_isRead {name : String} {s : Simple} (hvs : AllProper vs)
    (h : functionalPseudoClass? nested place name vs = some s) : s.IsRead := by
  have hunless : ∀ {o : Option Simple}, (if place.afterPseudo then none else o) = some s →
      o = some s := by
    intro o h
    split at h
    · cases h
    · exact h
  have hlist : ∀ {p : SelectorPlace} {form : ListForm} {make : List Complex → Simple},
      (nested p form vs).map make = some s → (∀ list, (make list).arguments = list) →
        (∀ list, (make list).hosted = []) → (∀ list c, make list ≠ .pseudoClass c) →
        s.IsRead := by
    intro p form make h harguments hhosted hself
    obtain ⟨list, hread, rfl⟩ := Option.map_eq_some_iff.mp h
    refine .mk (fun c hc => absurd hc (hself list c)) ?_ (by rw [hhosted]; exact nofun)
    rw [harguments]
    exact hnested _ _ _ _ hvs hread
  unfold functionalPseudoClass? at h
  dsimp only at h
  -- One case for each name, in the order in which they are compared.
  split at h
  case h_1 | h_2 | h_3 | h_4 => exact nthTest?_isRead hnested hvs (hunless h)
  case h_5 | h_6 | h_7 => exact hlist h (fun _ => rfl) (fun _ => rfl) nofun
  case h_8 =>
    split at h
    next simples hread =>
      cases hunless h
      have hcompound := hnested _ _ _ _ hvs hread _ List.mem_cons_self
      exact .mk nofun nofun hcompound.of_compound
    · cases h
  case h_9 =>
    split at h
    · cases h
    · exact hlist (hunless h) (fun _ => rfl) (fun _ => rfl) nofun
  case h_10 =>
    obtain ⟨ranges, hread, rfl⟩ := Option.map_eq_some_iff.mp (hunless h)
    refine .mk ?_ nofun nofun
    rintro _ ⟨⟩
    exact langRanges?_spec hvs hread
  case h_11 =>
    obtain ⟨s, hread, rfl⟩ := Option.map_eq_some_iff.mp (hunless h)
    refine .mk ?_ nofun nofun
    rintro _ ⟨⟩
    exact ⟨s, soleIdent?_spec hvs hread, rfl⟩
  case h_12 =>
    obtain ⟨s, hread, rfl⟩ := Option.map_eq_some_iff.mp (hunless h)
    refine .mk ?_ nofun nofun
    rintro _ ⟨⟩
    exact soleIdent?_spec hvs hread
  case h_13 => cases h

theorem pseudoPart?_isRead {doubled : Bool} {name : String}
    {argument : Option (List ComponentValue)} (hargument : ∀ vs, argument = some vs → AllProper vs)
    {part : Part} (h : pseudoPart? nested place doubled name argument = some part) :
    ∀ s, part = .simple s → s.IsRead := by
  unfold pseudoPart? at h
  split at h
  · split at h
    · cases h
    · obtain ⟨p, -, rfl⟩ := Option.map_eq_some_iff.mp h
      nofun
  · split at h
    next vs =>
      obtain ⟨s, hs, rfl⟩ := Option.map_eq_some_iff.mp h
      rintro _ ⟨⟩
      exact functionalPseudoClass?_isRead hnested (hargument vs rfl) hs
    · split at h
      · cases h
      · obtain ⟨s, hs, rfl⟩ := Option.map_eq_some_iff.mp h
        rintro _ ⟨⟩
        exact simplePseudoClass?_isRead hs

theorem yields_part?_isRead : Yields (part? nested place) fun o => ∀ part, o = some part →
    ∀ s, part = .simple s → s.IsRead := by
  refine yields_part?_of (fun name _ _ => ?_) (fun name _ _ => ?_) (fun test _ _ => ?_)
    fun hargument hpart => pseudoPart?_isRead hnested hargument hpart
  all_goals
    rintro _ ⟨⟩
    exact .mk nofun nofun nofun

theorem yields_parts_isRead (limit : Nat) (place : SelectorPlace) :
    Yields (parts nested limit place) CompoundParts.IsRead := by
  induction limit generalizing place with
  | zero => exact .pure ⟨nofun, nofun⟩
  | succ limit ih =>
    refine (yields_part?_isRead hnested).bind fun o ho => ?_
    split
    · exact .pure ⟨nofun, nofun⟩
    next s =>
      have hs := ho _ rfl s rfl
      refine (ih place).bind fun more hmore => .pure ⟨?_, hmore.2⟩
      exact List.forall_mem_cons.mpr ⟨hs, hmore.1⟩
    next p =>
      refine (ih _).bind fun more hmore => .pure ⟨nofun, ?_⟩
      rintro p ⟨⟩
      exact hmore.1

theorem yields_compound_isRead : Yields (compound nested place) CompoundParts.IsRead := by
  refine Yields.get.bind fun vs hvs => ?_
  refine (Yields.set hvs.skipBlank).bind fun _ _ => ?_
  refine yields_typeName?.bind fun type _ => ?_
  have hrest : Yields (do
      let more ← parts nested (← get).length place
      return (⟨type.elim [] typeSimples ++ more.simples, more.pseudo⟩ : CompoundParts))
      CompoundParts.IsRead := by
    refine Yields.get.bind fun us _ => ?_
    refine (yields_parts_isRead hnested _ _).bind fun more hmore => .pure ⟨?_, hmore.2⟩
    refine List.forall_mem_append.mpr ⟨fun s hs => isRead_of_mem_type hs, hmore.1⟩
  dsimp only
  split
  · exact (Yields.refuse (Q := fun _ => False)).bind nofun
  · exact hrest

theorem yields_steps_isRead (limit : Nat) {left : Option (Complex × Combinator)}
    (hleft : ∀ l ∈ left, l.1.IsRead) : Yields (steps nested place limit left) Selector.IsRead := by
  induction limit generalizing left with
  | zero => exact .refuse
  | succ limit ih =>
    rw [steps_succ]
    refine (yields_compound_isRead hnested).bind fun c hc => ?_
    split
    · exact .refuse
    have hextend : (extend c.simples left).IsRead := by
      rcases left with _ | ⟨left, combinator⟩
      · exact .compound hc.1
      · exact .step hc.1 (hleft _ rfl)
    unfold goOn
    split
    · exact .pure ⟨hextend, hc.2⟩
    · refine yields_combinator?.bind fun combinator _ => ?_
      split
      · exact .pure ⟨hextend, nofun⟩
      · split
        · exact (Yields.refuse (Q := fun _ => False)).bind nofun
        · refine ih ?_
          rintro _ ⟨⟩
          exact hextend

theorem yields_entry_isRead (form : ListForm) :
    Yields (entry nested place form) Selector.IsRead := by
  refine Yields.get.bind fun vs hvs => ?_
  refine (Yields.set hvs.skipBlank).bind fun _ _ => ?_
  split
  · refine yields_combinator?.bind fun combinator _ => ?_
    refine Yields.get.bind fun us _ => yields_steps_isRead hnested _ ?_
    rintro _ ⟨⟩
    exact .anchor
  · exact Yields.get.bind fun us _ => yields_steps_isRead hnested _ nofun

theorem entryOf_isRead {form : ListForm} {s : Selector} (hvs : AllProper vs)
    (h : entryOf nested place form vs = .ok s) : s.IsRead := by
  unfold entryOf at h
  split at h
  next hentry =>
    split at h
    · cases h
      exact (yields_entry_isRead hnested form _ _ _ hvs hentry).1
    · cases h
  · cases h

end Nested

theorem reads_nestedList (depth : Nat) : Reads (nestedList depth) := by
  induction depth with
  | zero =>
    intro place form vs list _ h
    cases h
  | succ depth ih =>
    intro place form vs list hvs h d hd
    obtain ⟨piece, hpiece, hread⟩ := exists_of_mem_mapM h hd
    split at hread
    next s hs =>
      cases hread
      exact (entryOf_isRead ih (hvs.of_mem_pieces hpiece) hs).1
    next rest _ =>
      split at hread
      · cases hread
        exact .compound (List.forall_mem_singleton.mpr (.mk nofun nofun nofun))
      · cases hread

end SelectorReader

theorem Selector.isRead_of_parseList? {text : String} {list : List Selector}
    (h : parseList? text = some list) : ∀ s ∈ list, s.IsRead := by
  intro s hs
  obtain ⟨piece, hpiece, hread⟩ := exists_entryOf h hs
  exact SelectorReader.entryOf_isRead (SelectorReader.reads_nestedList _)
    ((allProper_values text).of_mem_pieces hpiece) hread

/-! ## What is written -/

namespace PseudoClass

/-- A language range of the pseudo-class is empty. -/
def hasEmptyRange : PseudoClass → Bool
  | .lang ranges => ranges.contains ""
  | _ => false

theorem IsRead.fits {c : PseudoClass} (h : c.IsRead) (hranges : c.hasEmptyRange = false) :
    c.Fits := by
  cases c with
  | lang ranges =>
    have hempty : "" ∉ ranges := by simpa [hasEmptyRange] using hranges
    refine ⟨h.1, fun r hr => ⟨fun hnil => hempty ?_, h.2 r hr⟩⟩
    rwa [String.toList_eq_nil_iff.mp hnil] at hr
  | dir argument => exact h
  | customState name => exact h
  | _ => trivial

theorem values_lang {ranges : List String} (h : ∀ r ∈ ranges, '\x00' ∉ r.toList) :
    Css.values (lang ranges).text =
      functionValues "lang" (withCommas (ranges.map rangeValues)) := by
  have hspells := spells_lang h
  rw [← String.ofList_toList (s := (lang ranges).text), ← hspells.text]
  exact values_textOf (hspells.spelled [] rfl)

end PseudoClass

/-! ## What is written and read again -/

theorem mapM_eq_none {α β : Type} {f : α → Option β} {xs : List α} {x : α} (hx : x ∈ xs)
    (hf : f x = none) : xs.mapM f = none := by
  induction xs with
  | nil => cases hx
  | cons y ys ih =>
    rw [List.mapM_cons]
    rcases List.mem_cons.mp hx with rfl | hx
    · rw [hf]
      rfl
    · rw [ih hx]
      cases f y <;> rfl

namespace SelectorReader

theorem bind_error {α β : Type} {x : SelectorReader α} {f : α → SelectorReader β}
    {vs us : List ComponentValue} (h : x vs = .error () us) : (x >>= f) vs = .error () us := by
  show EStateM.bind x f vs = _
  rw [EStateM.bind, h]

/-- An entry that is empty is no language range. -/
theorem langRanges?_empty {ranges : List String} (h : "" ∈ ranges) :
    langRanges? (withCommas (ranges.map PseudoClass.rangeValues)) = none := by
  have hcomma : ∀ r ∈ ranges, ∀ v ∈ PseudoClass.rangeValues r, v.isToken .comma = false := by
    intro r _ v hv
    rw [PseudoClass.rangeValues] at hv
    split at hv
    · cases hv
    · obtain rfl := List.mem_singleton.mp hv
      rfl
  have hread : langRanges? ([] ++ withCommas (ranges.map PseudoClass.rangeValues)) =
      ranges.mapM fun r => if r = "" then none else some r := by
    unfold langRanges?
    refine mapM_withCommas (List.ne_nil_of_mem h) (.inl rfl) hcomma ?_
    intro r _ lead hlead
    by_cases hr : r = ""
    · subst hr
      rcases hlead with rfl | rfl <;> rfl
    · rw [PseudoClass.rangeValues, if_neg hr, if_neg hr]
      rcases hlead with rfl | rfl <;> rfl
  exact hread.trans (mapM_eq_none h (if_pos rfl))

section Refused

variable {nested : NestedReader} {place : SelectorPlace} {body : List ComponentValue}
  (h : langRanges? body = none)

include h

theorem part?_lang_refused : part? nested place (functionValues "lang" body) = .error () [] := by
  have hfunction : functionalPseudoClass? nested place "lang" body = none := by
    show (if place.afterPseudo then none else (langRanges? body).map _) = _
    rw [h]
    split <;> rfl
  have hpart : pseudoPart? nested place false "lang" (some body) = none := by
    show (functionalPseudoClass? nested place "lang" body).map _ = _
    rw [hfunction]
    rfl
  show (some <$> ofOption (pseudoPart? nested place false "lang" (some body)) :
    SelectorReader (Option Part)) [] = _
  rw [hpart]
  rfl

theorem compound_lang_refused :
    compound nested place (functionValues "lang" body) = .error () [] := by
  have hparts : parts nested 2 place (functionValues "lang" body) = .error () [] := by
    rw [parts, bind_error (part?_lang_refused h)]
  show (do
    let more ← parts nested 2 place
    return (⟨[] ++ more.simples, more.pseudo⟩ : CompoundParts) :
    SelectorReader CompoundParts) (functionValues "lang" body) = _
  rw [bind_error hparts]

theorem entryOf_lang_refused (form : ListForm) (hform : form ≠ .relative) :
    entryOf nested place form (functionValues "lang" body) = .error [] := by
  have hentry : entry nested place form (functionValues "lang" body) = .error () [] := by
    have hsteps : steps nested place 3 none (functionValues "lang" body) = .error () [] := by
      rw [steps_succ, bind_error (compound_lang_refused h)]
    cases form with
    | relative => exact absurd rfl hform
    | strict | forgiving => exact hsteps
  rw [entryOf, hentry]

end Refused

end SelectorReader

namespace Selector

theorem parseList?_lang {ranges : List String} (h : ∀ r ∈ ranges, '\x00' ∉ r.toList)
    (hempty : "" ∈ ranges) : parseList? (PseudoClass.lang ranges).text = none := by
  have hrefused := SelectorReader.langRanges?_empty hempty
  have hpieces (body : List ComponentValue) :
      pieces (·.isToken .comma) (functionValues "lang" body) = [functionValues "lang" body] := rfl
  rw [parseList?, PseudoClass.values_lang h, ofValues?, hpieces]
  refine mapM_eq_none List.mem_cons_self ?_
  rw [SelectorReader.entryOf_lang_refused hrefused .strict (by decide)]
  rfl

theorem parseList?_text {c : PseudoClass} (h : c.Fits) :
    parseList? c.text = some [⟨.compound [.pseudoClass c], none⟩] := by
  have hfits : Selector.Fits ⟨.compound [.pseudoClass c], none⟩ := by
    refine ⟨.compound ⟨⟨none, [.pseudoClass c], rfl, ?_⟩, nofun, ?_⟩, nofun⟩
    · exact List.forall_mem_singleton.mpr rfl
    · exact List.forall_mem_singleton.mpr (.pseudoClass h)
  have htext : listText [⟨.compound [.pseudoClass c], none⟩] = c.text := by
    rw [listText, List.map_singleton, String.intercalate_singleton]
    exact String.append_empty
  rw [← htext, parseList?_canonical (List.cons_ne_nil _ []) (List.forall_mem_singleton.mpr hfits)]
  rfl

/-- Whatever pseudo-class occurs in a list that is read from a text, its own text is read as a
selector that is the pseudo-class and nothing else, unless one of its language ranges is empty. Then
the text is no selector. -/
theorem parseList?_mentioned {text : String} {list : List Selector} {s : Selector}
    {c : PseudoClass} (h : parseList? text = some list) (hs : s ∈ list) (hc : s.Mentions c) :
    parseList? c.text =
      if c.hasEmptyRange then none else some [⟨.compound [.pseudoClass c], none⟩] := by
  have hread : c.IsRead := (isRead_of_parseList? h s hs).of_mentions hc
  cases hranges : c.hasEmptyRange with
  | false => exact parseList?_text (hread.fits hranges)
  | true =>
    cases c with
    | lang ranges => exact parseList?_lang hread.2 (List.contains_iff_mem.mp hranges)
    | _ => cases hranges

theorem parseList?_mentioned_is :
    ∃ list s, parseList? ":is(:lang('a b','-1'))" = some list ∧ s ∈ list ∧
      s.Mentions (.lang ["a b", "-1"]) ∧
      (PseudoClass.lang ["a b", "-1"]).text = ":lang(a\\ b, -\\31 )" ∧
      parseList? (PseudoClass.lang ["a b", "-1"]).text =
        some [⟨.compound [.pseudoClass (.lang ["a b", "-1"])], none⟩] := by
  have hlexemes : lexemes ":is(:lang('a b','-1'))".toList =
      [⟨.colon, [':'], true⟩, ⟨.function "is", "is(".toList, true⟩, ⟨.colon, [':'], true⟩,
        ⟨.function "lang", "lang(".toList, true⟩, ⟨.quoted "a b", "'a b'".toList, true⟩,
        ⟨.comma, [','], true⟩, ⟨.quoted "-1", "'-1'".toList, true⟩, ⟨.parenClose, [')'], true⟩,
        ⟨.parenClose, [')'], true⟩] := by
    decide +kernel
  have hread : parseList? ":is(:lang('a b','-1'))" =
      some [⟨.compound [.isAny [.compound [.pseudoClass (.lang ["a b", "-1"])]]], none⟩] := by
    rw [parseList?, Css.values, hlexemes]
    rfl
  have hmentions : Selector.Mentions (.lang ["a b", "-1"])
      ⟨.compound [.isAny [.compound [.pseudoClass (.lang ["a b", "-1"])]]], none⟩ :=
    .inl (.compound List.mem_cons_self
      (.argument List.mem_cons_self (.compound List.mem_cons_self .here)))
  exact ⟨_, _, hread, List.mem_cons_self, hmentions, by decide,
    parseList?_mentioned hread List.mem_cons_self hmentions⟩

/-- An empty range is written as nothing, which is no range. -/
theorem parseList?_emptyRange :
    ∃ list s, parseList? ":lang('')" = some list ∧ s ∈ list ∧ s.Mentions (.lang [""]) ∧
      (PseudoClass.lang [""]).text = ":lang()" ∧
      parseList? (PseudoClass.lang [""]).text = none := by
  have hlexemes : lexemes ":lang('')".toList =
      [⟨.colon, [':'], true⟩, ⟨.function "lang", "lang(".toList, true⟩,
        ⟨.quoted "", ['\'', '\''], true⟩, ⟨.parenClose, [')'], true⟩] := by
    decide +kernel
  have hread : parseList? ":lang('')" = some [⟨.compound [.pseudoClass (.lang [""])], none⟩] := by
    rw [parseList?, Css.values, hlexemes]
    rfl
  exact ⟨_, _, hread, List.mem_cons_self, .inl (.compound List.mem_cons_self .here), by decide,
    parseList?_lang (by decide) List.mem_cons_self⟩

end Selector

end StyleTree
