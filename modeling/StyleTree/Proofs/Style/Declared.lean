import StyleTree.Proofs.Css.Declarations
import StyleTree.Proofs.Css.Lists
import StyleTree.Proofs.Sheets.Composed
import StyleTree.Proofs.Sheets.Current
import StyleTree.Proofs.Text.Ascii

/-!
# The declarations that a cascade sees

They come from texts, where a declaration without a value is none, and from attributes, where every
hint has to see to that by itself. Those for a font do not.
-/

namespace StyleTree

open Css

namespace Declaration

/-- The declaration has a name in lower case, unless two hyphens start it, and its value neither
starts nor ends with a blank. -/
structure IsTidy (x : Declaration) : Prop where
  name_ne : x.name ≠ ""
  name_lower : ['-', '-'] <+: x.name.toList ∨ ∀ c ∈ x.name.toList, c.isUpper = false
  value_head : ∀ c, x.value.toList.head? = some c → StyleTree.isBlank c = false
  value_last : ∀ c, x.value.toList.getLast? = some c → StyleTree.isBlank c = false

/-- However it is written, a value is trimmed. -/
theorem IsTidy.of_trimmed {name : String} {important : Bool} (s : List Char) (hne : name ≠ "")
    (hlower : ['-', '-'] <+: name.toList ∨ ∀ c ∈ name.toList, c.isUpper = false) :
    IsTidy ⟨name, String.ofList (trimBlank s), important⟩ where
  name_ne := hne
  name_lower := hlower
  value_head c hc := by
    rw [String.toList_ofList, trimBlank_eq_trimWhile] at hc
    exact not_of_head?_trimWhile hc
  value_last c hc := by
    rw [String.toList_ofList, trimBlank_eq_trimWhile] at hc
    exact not_of_getLast?_trimWhile hc

/-! ## Declarations of a text -/

theorem canonicalName_lower (s : String) : ['-', '-'] <+: (canonicalName s).toList ∨
    ∀ c ∈ (canonicalName s).toList, c.isUpper = false := by
  unfold canonicalName
  split
  next hhyphens => exact .inl (List.isPrefixOf_iff_prefix.mp hhyphens)
  next => exact .inr fun c hc => Ascii.isUpper_of_mem_lower hc

theorem canonicalName_ne_empty {s : String} (h : IsName s) : canonicalName s ≠ "" := by
  obtain ⟨hne, -⟩ := h
  unfold canonicalName
  split
  · exact fun hs => hne (String.toList_eq_nil_iff.mpr hs)
  · rw [Ascii.lower, Ne, String.ofList_eq_empty_iff, List.map_eq_nil_iff]
    exact hne

theorem isTidy_of_read? {vs : List ComponentValue} {x : Declaration} (hvs : AllProper vs)
    (h : read? vs = some x) : x.IsTidy ∧ x.value ≠ "" := by
  obtain ⟨p, hvalue, rfl⟩ := exists_parts h
  have hident : .token p.ident ∈ vs := by
    simpa using congrArg (ComponentValue.token p.ident ∈ ·) p.values_eq
  have hname : IsName p.name := by
    have hproper := (hvs _ hident).token_isProper
    rwa [p.ident_eq] at hproper
  refine ⟨.of_trimmed p.text (canonicalName_ne_empty hname) (canonicalName_lower p.name), ?_⟩
  exact fun hempty => hvalue (String.ofList_eq_empty_iff.mp hempty)

theorem isTidy_of_mem_ofValues {vs : List ComponentValue} {x : Declaration} (hvs : AllProper vs)
    (hx : x ∈ ofValues vs) : x.IsTidy ∧ x.value ≠ "" := by
  obtain ⟨piece, hpiece, hread⟩ := List.mem_filterMap.mp hx
  exact isTidy_of_read? (hvs.of_mem_pieces hpiece) hread

end Declaration

/-! ## Declarations of a style sheet -/

namespace Rule

mutual

/-- The declarations of the rule or of those in its block, whatever the media. -/
def declarations : Rule → List Declaration
  | style rule => rule.declarations
  | media _ rules => declarationsOf rules

def declarationsOf : List Rule → List Declaration
  | [] => []
  | r :: rs => r.declarations ++ declarationsOf rs

end

theorem declarationsOf_eq_flatMap (rs : List Rule) :
    declarationsOf rs = rs.flatMap declarations := by
  induction rs with
  | nil => rfl
  | cons r rs ih => rw [declarationsOf, ih, List.flatMap_cons]

theorem allProper_body {start : Location} {vs body : List ComponentValue} {r : RawRule}
    (hvs : AllProper vs) (hr : r ∈ RawRule.list start vs) (hbody : r.body = some body) :
    AllProper body := by
  have hmem : r.unlocated ∈ RawRule.rules vs :=
    RawRule.map_unlocated_list start vs ▸ List.mem_map_of_mem hr
  obtain ⟨o, close, hblock⟩ := RawRule.exists_block_of_mem_rules hmem hbody
  cases hvs _ hblock with
  | block hbody => exact hbody

theorem isTidy_of_mem_declarationsOf {depth : Nat} {start : Location} {vs : List ComponentValue}
    {x : Declaration} (hvs : AllProper vs) (hx : x ∈ declarationsOf (ofValues depth start vs)) :
    x.IsTidy ∧ x.value ≠ "" := by
  induction depth generalizing start vs with
  | zero => cases hx
  | succ depth ih =>
    rw [declarationsOf_eq_flatMap] at hx
    obtain ⟨r, hr, hx⟩ := List.mem_flatMap.mp hx
    obtain ⟨raw, hraw, hof⟩ := List.mem_filterMap.mp hr
    -- A block for some media holds rules, any other one declarations.
    unfold ofRaw? at hof
    split at hof
    next hsome =>
      split at hof
      · cases hof
        exact ih (allProper_body hvs hraw hsome) hx
      · cases hof
    next hsome =>
      split at hof
      · cases hof
      · obtain ⟨selectors, -, rfl⟩ := Option.map_eq_some_iff.mp hof
        exact Declaration.isTidy_of_mem_ofValues (allProper_body hvs hraw hsome) hx
    next => cases hof

end Rule

/-! ## Declarations of attributes -/

namespace Page

variable {p : Page} {n : NodeId} {x : Declaration}

/-- The properties that hints with a value are for. -/
def valuedProperties : List String :=
  ["display", "width", "height", "background-color", "text-align"]

/-- The attributes of fonts with the properties that they stand for. -/
def fontProperties : List (String × String) :=
  [("color", "color"), ("face", "font-family")]

/-- What a hint is: one with a value, or one of a font, which has the value of an attribute whatever
that is. -/
inductive IsHint (p : Page) (n : NodeId) : Declaration → Prop where
  | valued {name value : String}
    (hname : name ∈ valuedProperties) (hvalue : trim value ≠ "") : IsHint p n (hint name value)
  | font {source property value : String} (hfont : p.kind n = .font)
    (hproperty : (source, property) ∈ fontProperties) (h : p.attr? n source = some value) :
    IsHint p n (hint property value)

/-- A length ends in its unit. -/
theorem trim_ne_empty_of_dimension? {value length : String} (h : dimension? value = some length) :
    trim length ≠ "" := by
  rw [Ne, trim_eq_empty_iff]
  intro hblank
  unfold dimension? at h
  dsimp only at h
  split at h
  · obtain rfl := Option.some.inj h
    rw [String.toList_append] at hblank
    split at hblank
    · exact absurd (hblank '%' (by simp)) (by decide)
    · exact absurd (hblank 'x' (by simp)) (by decide)
  · cases h

theorem isHint_of_mem_hiddenHints (hx : x ∈ p.hiddenHints n) : p.IsHint n x := by
  unfold hiddenHints at hx
  split at hx
  · obtain rfl := List.mem_singleton.mp hx
    exact .valued (by decide) (by decide)
  · cases hx

theorem isHint_of_mem_dimensionHints (hx : x ∈ p.dimensionHints n) : p.IsHint n x := by
  obtain ⟨name, hname, hx⟩ := List.mem_filterMap.mp hx
  obtain ⟨length, hlength, rfl⟩ := Option.map_eq_some_iff.mp hx
  obtain ⟨value, -, hdimension⟩ := Option.bind_eq_some_iff.mp hlength
  have hsubset : ["width", "height"] ⊆ valuedProperties := by decide
  exact .valued (hsubset hname) (trim_ne_empty_of_dimension? hdimension)

theorem isHint_of_mem_backgroundHints (hx : x ∈ p.backgroundHints n) : p.IsHint n x := by
  unfold backgroundHints at hx
  split at hx
  · split at hx
    · cases hx
    next hcolor =>
      obtain rfl := List.mem_singleton.mp hx
      exact .valued (by decide) hcolor
  · cases hx

theorem isHint_of_mem_alignHints (hx : x ∈ p.alignHints n) : p.IsHint n x := by
  have hkeywords : ∀ keyword ∈ ["left", "right", "center", "justify"], trim keyword ≠ "" := by
    decide
  unfold alignHints at hx
  split at hx
  · dsimp only at hx
    split at hx
    next hkeyword =>
      obtain rfl := List.mem_singleton.mp hx
      exact .valued (by decide) (hkeywords _ (List.contains_iff_mem.mp hkeyword))
    · cases hx
  · cases hx

theorem isHint_of_mem_fontHints (hfont : p.kind n = .font) (hx : x ∈ p.fontHints n) :
    p.IsHint n x := by
  obtain ⟨⟨source, property⟩, hproperty, hx⟩ := List.mem_filterMap.mp hx
  obtain ⟨value, hvalue, rfl⟩ := Option.map_eq_some_iff.mp hx
  exact .font hfont hproperty hvalue

theorem isHint_of_mem_hints (hx : x ∈ p.hints n) : p.IsHint n x := by
  have htable (hx : x ∈ p.backgroundHints n ++ p.alignHints n) : p.IsHint n x :=
    (List.mem_append.mp hx).elim isHint_of_mem_backgroundHints isHint_of_mem_alignHints
  unfold hints at hx
  rcases List.mem_append.mp hx with hx | hx
  · exact isHint_of_mem_hiddenHints hx
  split at hx
  case h_1 | h_2 | h_3 => exact htable hx
  case h_4 | h_5 => exact (List.mem_append.mp hx).elim htable isHint_of_mem_dimensionHints
  case h_6 => exact isHint_of_mem_dimensionHints hx
  case h_7 hfont => exact isHint_of_mem_fontHints hfont hx
  case h_8 => cases hx

/-- The element is a font with an attribute for the property, and the attribute is blank. -/
def HasBlankFont (p : Page) (n : NodeId) (property : String) : Prop :=
  p.kind n = .font ∧ ∃ source value, (source, property) ∈ fontProperties ∧
    p.attr? n source = some value ∧ ∀ c ∈ value.toList, StyleTree.isBlank c = true

theorem IsHint.isTidy (h : p.IsHint n x) : x.IsTidy := by
  have hnames : ∀ name ∈ valuedProperties ++ fontProperties.map Prod.snd,
      name ≠ "" ∧ Ascii.lower name = name := by
    decide
  have htidy {name value : String}
      (hname : name ∈ valuedProperties ++ fontProperties.map Prod.snd) :
      (hint name value).IsTidy := by
    obtain ⟨hne, hlower⟩ := hnames name hname
    exact .of_trimmed _ hne (.inr fun c hc => Ascii.isUpper_of_mem_lower (hlower.symm ▸ hc))
  cases h with
  | valued hname => exact htidy (List.mem_append_left _ hname)
  | font _ hproperty => exact htidy (List.mem_append_right _ (List.mem_map_of_mem hproperty))

theorem IsHint.value_eq_empty_iff (h : p.IsHint n x) :
    x.value = "" ↔ p.HasBlankFont n x.name := by
  cases h with
  | @valued name value hname hvalue =>
    refine iff_of_false hvalue ?_
    rintro ⟨-, source, -, hproperty, -⟩
    have hfont : name ∈ fontProperties.map Prod.snd := List.mem_map_of_mem hproperty
    have hdisjoint : ∀ name ∈ valuedProperties, name ∉ fontProperties.map Prod.snd := by decide
    exact hdisjoint name hname hfont
  | @font source property value hfont hproperty h =>
    have hvalue : (hint property value).value = "" ↔
        ∀ c ∈ value.toList, StyleTree.isBlank c = true :=
      trim_eq_empty_iff
    rw [hvalue]
    refine ⟨fun hblank => ⟨hfont, source, value, hproperty, h, hblank⟩, ?_⟩
    rintro ⟨-, source', value', hproperty', h', hblank⟩
    have hsource : source' = source := by
      have hunique : ∀ q ∈ fontProperties, ∀ q' ∈ fontProperties, q.2 = q'.2 → q = q' := by decide
      exact congrArg Prod.fst (hunique _ hproperty' _ hproperty rfl)
    rw [hsource, h] at h'
    obtain rfl := Option.some.inj h'
    exact hblank

end Page

/-! ## What a cascade sees -/

theorem SheetStore.exists_text_of_load {p : Page} {loader : Loader} {n : NodeId} {o : SheetOrigin}
    {sheet : LoadedSheet} (h : (load p loader n o).1 = some sheet) :
    ∃ s, sheet.contents.rules = Rule.parse s := by
  unfold load at h
  split at h
  · cases h
    exact ⟨_, rfl⟩
  · split at h
    · cases h
    · split at h
      · cases h
        exact ⟨_, rfl⟩
      · cases h

namespace Document

variable {d : Document}

/-- Whether it was kept or not, the rules of a listed sheet are those of a text. -/
theorem exists_text_of_mem_readSheets (hvalid : d.page.tree.Valid) (henlisted : d.Enlisted)
    (h : d.Coherent) {sheet : ListedSheet} (hsheet : sheet ∈ d.readSheets.1.sheets) :
    ∃ s, sheet.contents.rules = Rule.parse s := by
  have hshown : sheet.shown ∈ d.readSheets.1.shown.sheets := List.mem_map_of_mem hsheet
  rw [shown_readSheets hvalid henlisted h, shown_rebuiltList] at hshown
  obtain ⟨entry, hentry, hsettle⟩ := List.mem_map.mp hshown
  obtain ⟨o, n, loaded, -, hload, rfl⟩ := SheetStore.exists_listing_of_mem_ownEntries hentry
  obtain ⟨text, htext⟩ := SheetStore.exists_text_of_load hload
  refine ⟨text, ?_⟩
  rw [← sheet.rules_shown, ← hsettle, SheetStore.contents_settle, ← SheetStore.shown_listing,
    ListedSheet.rules_shown, SheetStore.listing, htext]

/-- Every declaration that a cascade sees for an element or pseudo-element has a name in lower case,
unless two hyphens start it, and a value without blanks around it. The value is not empty, but for
the hints of a font with a blank attribute. -/
theorem tidy_declarations_run (doctype : Option String) (o : Options) (os : List Operation)
    (n : NodeId) (pseudo : Option PseudoElement) (parent : Option ComputedStyle) :
    let d := (create doctype o).run os
    let i := d.cascadeInputs d.readSheets.1 n pseudo parent
    (∀ x ∈ i.styleAttribute, x.IsTidy ∧ x.value ≠ "") ∧
      (∀ sheet ∈ i.sheets, ∀ x ∈ Rule.declarationsOf sheet.rules, x.IsTidy ∧ x.value ≠ "") ∧
      ∀ x ∈ i.hints, x.IsTidy ∧ (x.value = "" ↔ d.page.HasBlankFont n x.name) := by
  intro d i
  obtain ⟨hvalid, henlisted, hcoherent⟩ := run_coherent doctype o os
  refine ⟨fun x hx => ?_, ?_, fun x hx => ?_⟩
  · change x ∈ d.styleAttribute n pseudo at hx
    unfold styleAttribute at hx
    split at hx
    · cases hx
    · cases hattr : d.page.attr? n "style" with
      | none =>
        rw [hattr] at hx
        cases hx
      | some text =>
        rw [hattr] at hx
        exact Declaration.isTidy_of_mem_ofValues (allProper_values text) hx
  · intro sheet hsheet x hx
    obtain ⟨listed, hlisted, rfl⟩ := List.mem_map.mp hsheet
    obtain ⟨text, htext⟩ :=
      exists_text_of_mem_readSheets hvalid henlisted hcoherent (List.mem_filter.mp hlisted).1
    rw [htext] at hx
    exact Rule.isTidy_of_mem_declarationsOf (allProper_values text) hx
  · change x ∈ d.hints n pseudo at hx
    unfold hints at hx
    split at hx
    · cases hx
    · have hhint := Page.isHint_of_mem_hints hx
      exact ⟨hhint.isTidy, hhint.value_eq_empty_iff⟩

theorem tidy_declarations_run_font :
    let os : List Operation := [.createElement "font", .setAttribute 1 "color" " Red",
      .setAttribute 1 "face" " ", .setAttribute 1 "style" "Width: 1px ", .createElement "style",
      .createText "@media print \x7bp\x7bMargin: 0\x7d\x7d", .insertBefore 2 3 none,
      .insertBefore 1 2 none, .insertBefore Tree.root 1 none]
    let d := (create none .default).run os
    let i := d.cascadeInputs d.readSheets.1 1 none none
    i.styleAttribute = [⟨"width", "1px", false⟩] ∧ (⟨"width", "1px", false⟩ : Declaration).IsTidy ∧
      (∃ sheet ∈ i.sheets, ⟨"margin", "0", false⟩ ∈ Rule.declarationsOf sheet.rules) ∧
      (⟨"margin", "0", false⟩ : Declaration).IsTidy ∧
      i.hints = [⟨"color", "Red", false⟩, ⟨"font-family", "", false⟩] ∧
      ¬d.page.HasBlankFont 1 "color" ∧ d.page.HasBlankFont 1 "font-family" := by
  intro os d i
  obtain ⟨hstyle, hsheets, hhints⟩ := tidy_declarations_run none .default os 1 none none
  have hwritten : i.styleAttribute = [⟨"width", "1px", false⟩] := by decide +kernel
  have hhinted : i.hints = [⟨"color", "Red", false⟩, ⟨"font-family", "", false⟩] := by
    decide +kernel
  have hruled : ∃ sheet ∈ i.sheets, ⟨"margin", "0", false⟩ ∈ Rule.declarationsOf sheet.rules := by
    decide +kernel
  obtain ⟨sheet, hsheet, hx⟩ := hruled
  refine ⟨hwritten, (hstyle _ (hwritten ▸ List.mem_singleton_self _)).1,
    ⟨sheet, hsheet, hx⟩, (hsheets sheet hsheet _ hx).1, hhinted, ?_, ?_⟩
  · refine mt (hhints ⟨"color", "Red", false⟩ ?_).2.mpr (by decide)
    exact hhinted ▸ List.mem_cons_self
  · refine (hhints ⟨"font-family", "", false⟩ ?_).2.mp rfl
    exact hhinted ▸ List.mem_cons_of_mem _ List.mem_cons_self

/-- A font with a blank `color` gives a cascade a declaration without a value, where a cell with a
blank `bgcolor` gives it none. -/
theorem blank_color_declared :
    let d := (create none .default).run [.createElement "font", .setAttribute 1 "color" "",
      .createElement "td", .setAttribute 2 "bgcolor" ""]
    (d.cascadeInputs d.readSheets.1 1 none none).hints = [⟨"color", "", false⟩] ∧
      (d.cascadeInputs d.readSheets.1 2 none none).hints = [] := by
  decide +kernel

end Document

end StyleTree
