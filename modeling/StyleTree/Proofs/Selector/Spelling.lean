import StyleTree.Proofs.Css.AnPlusB
import StyleTree.Proofs.Css.Lists
import StyleTree.Proofs.Selector.Fits

/-!
# Selectors as they are spelled

The values that the text of a selector is made of. A selector that fits its place is spelled by
them: each is read from its own part of the text, whatever comes next in a selector.
-/

namespace StyleTree

open Css Css.ComponentValue

/-! ## Words -/

/-- A pseudo-class without an argument. -/
def wordValues (word : String) : List ComponentValue :=
  [colon, ident word]

/-- A pseudo-class with the argument `body`. -/
def functionValues (word : String) (body : List ComponentValue) : List ComponentValue :=
  [colon, function word body]

def PseudoElement.values (p : PseudoElement) : List ComponentValue :=
  [colon, colon, ident p.name]

def NthSide.word (side : NthSide) (ofType written : Bool) : String :=
  let type := if ofType then "of-type" else "child"
  match side, written with
  | .first, true => "nth-" ++ type
  | .first, false => "first-" ++ type
  | .last, true => "nth-last-" ++ type
  | .last, false => "last-" ++ type
  | .only, _ => "only-" ++ type

/-- The name of the pseudo-class without its colon. -/
def NthTest.word (t : NthTest) : String :=
  t.side.word t.ofType t.written

def DirArgument.word : DirArgument → String
  | ltr => "ltr"
  | rtl => "rtl"
  | other name => name

/-- The name of a pseudo-class without an argument. -/
def PseudoClass.word (c : PseudoClass) : String :=
  ((simple.find? (·.2 == c)).map (·.1)).getD ""

def PseudoClass.values : PseudoClass → List ComponentValue
  | .lang ranges => functionValues "lang" (withCommas (ranges.map fun r => [ident r]))
  | .dir argument => functionValues "dir" [ident argument.word]
  | .customState name => functionValues "state" [ident name]
  | c => wordValues c.word

/-! ## Attribute selectors -/

def AttributeOperator.token : AttributeOperator → Token
  | equal => .delim '='
  | includes => .includeMatch
  | dashMatch => .dashMatch
  | beginsWith => .prefixMatch
  | endsWith => .suffixMatch
  | contains => .substringMatch

def CaseRule.values : CaseRule → List ComponentValue
  | sensitive | insensitiveOnHtml => []
  | explicitSensitive => [space, ident "s"]
  | insensitive => [space, ident "i"]

def AttributeComparison.values (c : AttributeComparison) : List ComponentValue :=
  .token ⟨c.operator.token, c.operator.text.toList, true⟩ ::
    .token ⟨.quoted c.value, '"' :: (c.value.toList.flatMap escapeQuotedChar ++ ['"']), true⟩ ::
      c.case.values

/-- What is between the brackets. -/
def AttributeTest.values (t : AttributeTest) : List ComponentValue :=
  (if t.anyNamespace then [delim '*', delim '|'] else []) ++
    ident t.name :: t.comparison.elim [] (·.values)

/-! ## Selectors -/

def Combinator.values : Combinator → List ComponentValue
  | descendant => [space]
  | child => [space, delim '>', space]
  | nextSibling => [space, delim '+', space]
  | laterSibling => [space, delim '~', space]

/-- At the start of a relative selector. -/
def Combinator.leadingValues : Combinator → List ComponentValue
  | descendant => []
  | child => [delim '>', space]
  | nextSibling => [delim '+', space]
  | laterSibling => [delim '~', space]

mutual

/-- The values that the text of the selector is made of. -/
def Simple.values : Simple → List ComponentValue
  | .localName name => [ident name]
  | .universal => [delim '*']
  | .noNamespace => [delim '|']
  | .id name => [.token ⟨.idHash name, '#' :: escapeIdent name.toList, true⟩]
  | .className name => [delim '.', ident name]
  | .attribute test => [square test.values]
  | .root => wordValues "root"
  | .empty => wordValues "empty"
  | .scope => wordValues "scope"
  | .nth test =>
    if test.written then functionValues test.word test.formula.values else wordValues test.word
  | .nthOf test list =>
    functionValues test.word
      (test.formula.values ++ space :: ident "of" :: space :: listValues list)
  | .negation list => functionValues "not" (listValues list)
  | .isAny list => functionValues "is" (listValues list)
  | .whereAny list => functionValues "where" (listValues list)
  | .has list => functionValues "has" (listValues list)
  | .host simples => functionValues "host" (compoundValues (showsUniversal simples false) simples)
  | .pseudoClass c => c.values
  | .invalid _ => []

/-- The values of a compound; of universal selectors only if `universal` is set. -/
def compoundValues (universal : Bool) : List Simple → List ComponentValue
  | [] => []
  | s :: rest =>
    (if s.isUniversal && !universal then [] else s.values) ++ compoundValues universal rest

/-- The values of a complex selector, given whether a pseudo-element follows it. -/
def Complex.valuesBefore (pseudo : Bool) : Complex → List ComponentValue
  | .compound simples => compoundValues (showsUniversal simples pseudo) simples
  | .step simples combinator left =>
    (match left with
      | .anchor => combinator.leadingValues
      | left => left.valuesBefore false ++ combinator.values) ++
      compoundValues (showsUniversal simples pseudo) simples
  | .anchor => []

/-- The values of complex selectors with commas between them. -/
def listValues : List Complex → List ComponentValue
  | [] => []
  | [c] => c.valuesBefore false
  | c :: rest => c.valuesBefore false ++ [comma, space] ++ listValues rest

end

/-- The values of a selector with nothing after its pseudo-element. -/
def Selector.values (s : Selector) : List ComponentValue :=
  s.complex.valuesBefore s.pseudo.isSome ++ s.pseudoElement.elim [] PseudoElement.values

theorem listValues_eq_withCommas (list : List Complex) :
    listValues list = withCommas (list.map (·.valuesBefore false)) := by
  induction list with
  | nil => rfl
  | cons c rest ih =>
    cases rest with
    | nil => simp [listValues, withCommas]
    | cons d rest =>
      rw [List.map_cons, List.map_cons, withCommas_cons_cons, ← List.map_cons, ← ih]
      simp [listValues]

theorem compoundValues_eq_flatMap (universal : Bool) (simples : List Simple) :
    compoundValues universal simples = (shown universal simples).flatMap (·.values) := by
  induction simples with
  | nil => rfl
  | cons s rest ih =>
    rw [compoundValues, ih, shown_cons]
    split
    · rfl
    · rw [List.flatMap_cons]

theorem Complex.valuesBefore_step {left : Complex} (hleft : left ≠ .anchor)
    (simples : List Simple) (c : Combinator) (pseudo : Bool) :
    (step simples c left).valuesBefore pseudo = left.valuesBefore false ++ c.values ++
      compoundValues (showsUniversal simples pseudo) simples := by
  cases left with
  | anchor => exact absurd rfl hleft
  | _ => rfl

/-! ## Where a selector ends -/

/-- The text goes on with another simple selector or with what ends a compound. -/
def endsSimple (rest : List Char) : Bool :=
  rest.head?.all fun c => [' ', ',', ')', '#', '.', '[', ':'].contains c

theorem endsSimple_cons {c : Char} {r : List Char} (h : endsSimple (c :: r) = true) :
    c = ' ' ∨ c = ',' ∨ c = ')' ∨ c = '#' ∨ c = '.' ∨ c = '[' ∨ c = ':' := by
  simpa [endsSimple] using h

theorem endsIdent_of_endsSimple {rest : List Char} (h : endsSimple rest = true) :
    endsIdent rest = true := by
  cases rest with
  | nil => rfl
  | cons c r => rcases endsSimple_cons h with rfl | rfl | rfl | rfl | rfl | rfl | rfl <;> rfl

theorem endsSimple_of_endsEntry {rest : List Char} (h : endsEntry rest = true) :
    endsSimple rest = true := by
  cases rest with
  | nil => rfl
  | cons c r =>
    have h : c = ',' ∨ c = ')' := by simpa [endsEntry] using h
    rcases h with rfl | rfl <;> rfl

theorem not_equals_of_endsSimple {rest : List Char} (h : endsSimple rest = true) :
    rest.head? ≠ some '=' := by
  cases rest with
  | nil => exact nofun
  | cons c r =>
    rintro ⟨⟩
    simp [endsSimple] at h

/-! ## Words and arguments -/

theorem spells_wordValues {word : String} (h : isWord word = true) {text : String}
    (htext : text = ":" ++ word) :
    Spells (wordValues word) text.toList fun rest => endsSimple rest = true := by
  rw [htext, String.toList_append]
  exact (spells_word h).colon.mono fun rest hrest => endsIdent_of_endsSimple hrest

theorem spells_functionValues {word : String} (h : isWord word = true)
    {vs : List ComponentValue} {body : List Char} {ends : List Char → Prop}
    (hbody : Spells vs body ends) (hends : ∀ rest, ends (')' :: rest)) {text : String}
    (htext : text.toList = ':' :: (word.toList ++ '(' :: (body ++ [')']))) :
    Spells (functionValues word vs) text.toList fun rest => endsSimple rest = true := by
  rw [htext]
  exact (spells_function h hbody hends).colon

theorem PseudoElement.spells_values (p : PseudoElement) :
    Spells p.values p.text.toList fun rest => endsSimple rest = true := by
  have hword : isWord p.name = true := by cases p <;> decide
  rw [text, String.toList_append]
  exact (spells_word hword).colon.colon.mono fun rest hrest => endsIdent_of_endsSimple hrest

theorem NthTest.isWord_word (t : NthTest) : isWord t.word = true := by
  unfold word
  cases t.side <;> cases t.ofType <;> cases t.written <;> decide

theorem NthTest.name_eq_word (t : NthTest) : t.name = ":" ++ t.word := by
  obtain ⟨side, ofType, formula, written⟩ := t
  cases side <;> cases ofType <;> cases written <;> rfl

theorem spells_ident_endsSimple {name : String} (h : IsName name) :
    Spells [ident name] (identText name).toList fun rest => endsSimple rest = true := by
  rw [identText, String.toList_ofList]
  exact (spells_ident h).mono fun rest hrest => endsIdent_of_endsSimple hrest

namespace PseudoClass

/-- What is written of a language range. -/
def rangeValues (range : String) : List ComponentValue :=
  if range = "" then [] else [ident range]

theorem spells_rangeValues {range : String} (h : '\x00' ∉ range.toList) :
    Spells (rangeValues range) (escapeIdent range.toList) fun rest => endsEntry rest = true := by
  rw [rangeValues]
  split
  next hempty =>
    subst hempty
    exact .nil
  next hne =>
    have hname : IsName range := ⟨fun hnil => hne (String.toList_eq_nil_iff.mp hnil), h⟩
    exact (spells_ident hname).mono fun rest hrest => endsIdent_of_endsEntry hrest

theorem head_escapeIdent_range {range : String} (h : '\x00' ∉ range.toList) :
    (escapeIdent range.toList).head?.all (!isSpace ·) = true := by
  by_cases hnil : range.toList = []
  · rw [hnil]
    rfl
  · have hname : IsName range := ⟨hnil, h⟩
    obtain ⟨c, r, hcr, hspace, -⟩ := head_escapeIdent hname
    exact head_of_cons ⟨c, r, hcr, hspace⟩

theorem spells_lang {ranges : List String} (h : ∀ r ∈ ranges, '\x00' ∉ r.toList) :
    Spells (functionValues "lang" (withCommas (ranges.map rangeValues)))
      (lang ranges).text.toList fun rest => endsSimple rest = true := by
  have hlist := spells_withCommas (fun r hr => spells_rangeValues (h r hr))
    (fun r hr => head_escapeIdent_range (h r hr))
  refine spells_functionValues rfl hlist (fun _ => rfl) ?_
  have hranges : (ranges.map identText).map String.toList =
      ranges.map fun r => escapeIdent r.toList := by
    simp [identText]
  simp only [text, String.toList_append, String.toList_intercalate, hranges]
  simp

end PseudoClass

theorem PseudoClass.spells_values {c : PseudoClass} (h : c.Fits) :
    Spells c.values c.text.toList fun rest => endsSimple rest = true := by
  cases c with
  | lang ranges =>
    have hranges : (ranges.map fun r => [ident r]) = ranges.map rangeValues := by
      refine List.map_congr_left fun r hr => (if_neg fun hempty => ?_).symm
      exact (h.2 r hr).1 (String.toList_eq_nil_iff.mpr hempty)
    rw [values, hranges]
    exact spells_lang fun r hr => (h.2 r hr).2
  | dir argument =>
    have hargument : IsName argument.word ∧ argument.text = identText argument.word := by
      obtain ⟨s, hs, rfl⟩ := h
      unfold DirArgument.ofName
      split
      · exact ⟨isName_of_isWord (by decide), by decide⟩
      split
      · exact ⟨isName_of_isWord (by decide), by decide⟩
      · exact ⟨hs, rfl⟩
    refine spells_functionValues rfl (spells_ident_endsSimple hargument.1) (fun _ => rfl) ?_
    simp [text, hargument.2]
  | customState name =>
    refine spells_functionValues rfl (spells_ident_endsSimple h) (fun _ => rfl) ?_
    simp [text]
  | _ => exact spells_wordValues rfl rfl

/-! ## Attribute selectors -/

theorem AttributeOperator.spelled_token (operator : AttributeOperator) (rest : List Char) :
    Lexeme.Spelled ⟨operator.token, operator.text.toList, true⟩ rest := by
  have htext : operator.token.fixedText? = some operator.text.toList := by
    cases operator <;> decide
  exact spelled_fixed htext rest

theorem CaseRule.spells_values (rule : CaseRule) :
    Spells rule.values rule.text.toList fun rest => rest.head? = some ']' := by
  have hflag : ∀ {flag : String}, isWord flag = true →
      (∀ r, (flag.toList ++ r).head?.all (!isSpace ·) = true) →
      Spells [space, ident flag] (' ' :: flag.toList) fun rest => rest.head? = some ']' := by
    intro flag hword hstart
    have hends : ∀ rest : List Char, rest.head? = some ']' → endsIdent rest = true := by
      intro rest hrest
      cases rest with
      | nil => cases hrest
      | cons c r =>
        obtain rfl := Option.some.inj hrest
        rfl
    exact spells_space.append ((spells_word hword).mono hends) fun rest _ => hstart rest
  cases rule with
  | sensitive => exact .nil
  | insensitiveOnHtml => exact .nil
  | explicitSensitive => exact hflag rfl fun _ => rfl
  | insensitive => exact hflag rfl fun _ => rfl

theorem AttributeComparison.spells_values {c : AttributeComparison}
    (hvalue : '\x00' ∉ c.value.toList) :
    Spells c.values (c.operator.text ++ quotedText c.value ++ c.case.text).toList
      fun rest => rest.head? = some ']' := by
  have hquoted : Spells (.token ⟨.quoted c.value,
      '"' :: (c.value.toList.flatMap escapeQuotedChar ++ ['"']), true⟩ :: c.case.values)
      ('"' :: (c.value.toList.flatMap escapeQuotedChar ++ ['"']) ++ c.case.text.toList)
      fun rest => rest.head? = some ']' :=
    c.case.spells_values.cons (spelled_quoted hvalue) rfl rfl
  have htext : (c.operator.text ++ quotedText c.value ++ c.case.text).toList =
      c.operator.text.toList ++ ('"' :: (c.value.toList.flatMap escapeQuotedChar ++ ['"']) ++
        c.case.text.toList) := by
    simp [quotedText]
  rw [htext]
  exact hquoted.cons c.operator.spelled_token (by cases c.operator <;> rfl)
    (by cases c.operator <;> rfl)

theorem AttributeTest.spells_values {t : AttributeTest} (h : t.Fits) :
    Spells [square t.values] t.text.toList fun rest => endsSimple rest = true := by
  obtain ⟨c, r, hname, -, hequals, -⟩ := head_escapeIdent h.name
  have hcomparison : Spells (t.comparison.elim [] (·.values)) (t.comparison.elim "" fun c =>
      c.operator.text ++ quotedText c.value ++ c.case.text).toList
      fun rest => rest.head? = some ']' := by
    cases hcomparison : t.comparison with
    | none => exact .nil
    | some comparison => exact AttributeComparison.spells_values (h.value _ hcomparison)
  have hprefix : Spells (if t.anyNamespace then [delim '*', delim '|'] else [])
      (if t.anyNamespace then "*|" else "").toList fun rest => rest.head? ≠ some '=' := by
    split
    · have hbar : Spells [delim '|'] ['|'] fun rest => rest.head? ≠ some '=' :=
        .token (fun _ hrest => spelled_delim (.inr (.inl rfl)) hrest) rfl rfl
      have hstar : Spells [delim '*'] ['*'] fun rest => rest.head? ≠ some '=' :=
        .token (fun _ hrest => spelled_delim (.inl rfl) hrest) rfl rfl
      exact hstar.append hbar fun _ _ => nofun
    · exact .nil
  have hends : ∀ rest, rest.head? = some ']' → endsIdent ((t.comparison.elim "" fun c =>
      c.operator.text ++ quotedText c.value ++ c.case.text).toList ++ rest) = true := by
    intro rest hrest
    cases t.comparison with
    | none =>
      cases rest with
      | nil => cases hrest
      | cons c r =>
        obtain rfl := Option.some.inj hrest
        rfl
    | some comparison =>
      rw [Option.elim_some, String.toList_append, String.toList_append]
      cases comparison.operator <;> rfl
  have hbody := hprefix.append ((spells_ident h.name).append hcomparison hends) fun rest _ => by
    rw [hname]
    simpa using hequals
  have htext : t.text.toList = '[' :: ((if t.anyNamespace then "*|" else "").toList ++
      (escapeIdent t.name.toList ++ (t.comparison.elim "" fun c =>
        c.operator.text ++ quotedText c.value ++ c.case.text).toList) ++ [']']) := by
    simp [text, identText]
  rw [htext]
  exact spells_square hbody fun _ => rfl

/-! ## Simple selectors -/

/-- The text starts as a simple selector does that stands after others in a compound. -/
def startsSimple (cs : List Char) : Bool :=
  cs.head?.any fun c => ['#', '.', '[', ':'].contains c

theorem startsSimple_append {cs : List Char} (h : startsSimple cs = true) (r : List Char) :
    startsSimple (cs ++ r) = true := by
  cases cs with
  | nil => cases h
  | cons c s => exact h

theorem endsSimple_of_startsSimple {cs : List Char} (h : startsSimple cs = true) :
    endsSimple cs = true := by
  cases cs with
  | nil => rfl
  | cons c r =>
    have h : c = '#' ∨ c = '.' ∨ c = '[' ∨ c = ':' := by simpa [startsSimple] using h
    rcases h with rfl | rfl | rfl | rfl <;> rfl

theorem NthTest.startsSimple_name (t : NthTest) : startsSimple t.name.toList = true := by
  rw [name_eq_word, String.toList_append]
  rfl

theorem PseudoClass.startsSimple_text (c : PseudoClass) : startsSimple c.text.toList = true := by
  cases c <;> simp [text, startsSimple]

theorem Simple.startsSimple_text {s : Simple} {place : SelectorPlace} (h : s.Fits place)
    (htype : s.isType = false) : startsSimple s.text.toList = true := by
  cases h with
  | localName | universal | noNamespace => cases htype
  | nth =>
    rw [text]
    split
    · simp only [String.toList_append, List.append_assoc]
      exact startsSimple_append (NthTest.startsSimple_name _) _
    · exact NthTest.startsSimple_name _
  | nthOf =>
    simp only [text, String.toList_append, List.append_assoc]
    exact startsSimple_append (NthTest.startsSimple_name _) _
  | pseudoClass => exact PseudoClass.startsSimple_text _
  | _ => simp [text, AttributeTest.text, startsSimple]

/-- A simple selector starts with neither white space nor an equals sign. -/
theorem Simple.head_text {s : Simple} {place : SelectorPlace} (h : s.Fits place) :
    ∃ c r, s.text.toList = c :: r ∧ isSpace c = false ∧ c ≠ '=' := by
  cases htype : s.isType with
  | false =>
    have hstart := startsSimple_text h htype
    cases htext : s.text.toList with
    | nil =>
      rw [htext] at hstart
      cases hstart
    | cons c r =>
      rw [htext] at hstart
      have hc : c = '#' ∨ c = '.' ∨ c = '[' ∨ c = ':' := by simpa [startsSimple] using hstart
      refine ⟨c, r, rfl, ?_⟩
      rcases hc with rfl | rfl | rfl | rfl <;> decide
  | true =>
    cases h with
    | localName h =>
      obtain ⟨c, r, hcr, hspace, hequals, -⟩ := head_escapeIdent h
      exact ⟨c, r, by rw [text, identText, String.toList_ofList, hcr], hspace, hequals⟩
    | universal => exact ⟨'*', [], rfl, by decide⟩
    | noNamespace => exact ⟨'|', [], rfl, by decide⟩
    | _ => cases htype

/-! ## Compounds -/

theorem toList_compoundText (universal : Bool) (simples : List Simple) :
    (compoundText universal simples).toList =
      (shown universal simples).flatMap (·.text.toList) := by
  induction simples with
  | nil => rfl
  | cons s rest ih =>
    rw [compoundText, String.toList_append, ih, shown_cons]
    split
    · rfl
    · rw [List.flatMap_cons]

/-- The simple selector is spelled, whatever goes on in a selector. A namespace prefix is not: it
goes on with a name. -/
def Simple.Spelled (s : Simple) : Prop :=
  s.isNoNamespace = false → Spells s.values s.text.toList fun rest => endsSimple rest = true

theorem spells_parts {parts : List Simple} (hspelled : ∀ s ∈ parts, s.Spelled)
    (hstart : ∀ s ∈ parts, startsSimple s.text.toList = true)
    (htype : ∀ s ∈ parts, s.isType = false) :
    Spells (parts.flatMap (·.values)) (parts.flatMap (·.text.toList))
      fun rest => endsSimple rest = true := by
  induction parts with
  | nil => exact .nil
  | cons s rest ih =>
    obtain ⟨hs, hrest⟩ := List.forall_mem_cons.mp hspelled
    obtain ⟨-, hstarts⟩ := List.forall_mem_cons.mp hstart
    obtain ⟨hstype, htypes⟩ := List.forall_mem_cons.mp htype
    have hprefix : s.isNoNamespace = false := by
      cases s <;> first | rfl | cases hstype
    rw [List.flatMap_cons, List.flatMap_cons]
    refine (hs hprefix).append (ih hrest hstarts htypes) fun after hafter => ?_
    cases rest with
    | nil => exact hafter
    | cons t rest =>
      rw [List.flatMap_cons, List.append_assoc]
      exact endsSimple_of_startsSimple
        (startsSimple_append (hstarts t List.mem_cons_self) _)

/-- A compound is spelled if its simple selectors are. -/
theorem spells_typed {place : SelectorPlace} {simples : List Simple} (htyped : IsTyped simples)
    (hfit : ∀ s ∈ simples, s.Fits place) (hspelled : ∀ s ∈ simples, s.Spelled) :
    Spells (simples.flatMap (·.values)) (simples.flatMap (·.text.toList))
      fun rest => endsSimple rest = true := by
  obtain ⟨type, parts, rfl, hparts⟩ := htyped
  have hpartsFit : ∀ s ∈ parts, startsSimple s.text.toList = true := fun s hs =>
    Simple.startsSimple_text (hfit s (List.mem_append_right _ hs)) (hparts s hs)
  have hpartsSpelled := spells_parts
    (fun s hs => hspelled s (List.mem_append_right _ hs)) hpartsFit hparts
  have hends : ∀ rest, endsSimple rest = true →
      endsSimple (parts.flatMap (·.text.toList) ++ rest) = true := by
    intro rest hrest
    cases parts with
    | nil => exact hrest
    | cons s parts =>
      rw [List.flatMap_cons, List.append_assoc]
      exact endsSimple_of_startsSimple (startsSimple_append (hpartsFit s List.mem_cons_self) _)
  rw [List.flatMap_append, List.flatMap_append]
  refine Spells.append (P := fun rest => endsSimple rest = true) ?_ hpartsSpelled hends
  obtain _ | ⟨noNamespace, name⟩ := type
  · exact .nil
  -- The name comes last, perhaps after a prefix.
  have hname : ∀ s ∈ [name.elim Simple.universal .localName], s.isNoNamespace = false := by
    intro s hs
    obtain rfl := List.mem_singleton.mp hs
    cases name <;> rfl
  have hmem : name.elim Simple.universal .localName ∈
      Option.elim (some (noNamespace, name)) [] SelectorReader.typeSimples ++ parts :=
    List.mem_append_left _ (List.mem_append_right _ List.mem_cons_self)
  have hlast := hspelled _ hmem (hname _ List.mem_cons_self)
  obtain ⟨c, r, htext, -, hequals⟩ := Simple.head_text (hfit _ hmem)
  cases noNamespace with
  | false => simpa [SelectorReader.typeSimples] using hlast
  | true =>
    have hbar : Spells [delim '|'] ['|'] fun rest => rest.head? ≠ some '=' :=
      .token (fun _ hrest => spelled_delim (.inr (.inl rfl)) hrest) rfl rfl
    have hspells := hbar.append hlast fun rest _ => by
      rw [htext]
      simpa using hequals
    simpa [SelectorReader.typeSimples, Simple.values, Simple.text] using hspells

/-- Before a pseudo-element nothing else may come next. -/
def endsCompound (pseudo : Bool) (rest : List Char) : Bool :=
  if pseudo then rest.head? == some ':' else endsSimple rest

theorem endsSimple_of_endsCompound {pseudo : Bool} {rest : List Char}
    (h : endsCompound pseudo rest = true) : endsSimple rest = true := by
  cases pseudo with
  | false => exact h
  | true =>
    cases rest with
    | nil => rfl
    | cons c r =>
      obtain rfl : c = ':' := by simpa [endsCompound] using h
      rfl

section Compound

variable {place : SelectorPlace} {pseudo : Bool} {simples : List Simple}

theorem spells_compound (h : CompoundFits place pseudo simples)
    (hspelled : ∀ s ∈ simples, ∀ place, s.Fits place → s.Spelled) :
    Spells (compoundValues (showsUniversal simples pseudo) simples)
      (compoundText (showsUniversal simples pseudo) simples).toList
      fun rest => endsSimple rest = true := by
  obtain ⟨htyped, -, hfit⟩ := h.shown
  rw [compoundValues_eq_flatMap, toList_compoundText]
  exact spells_typed htyped hfit fun s hs =>
    hspelled s (List.mem_filter.mp hs).1 place (hfit s hs)

/-- A compound does not start with white space. -/
theorem head_compound (h : CompoundFits place pseudo simples) :
    (∃ c r, (compoundText (showsUniversal simples pseudo) simples).toList = c :: r ∧
      isSpace c = false) ∨
    (compoundText (showsUniversal simples pseudo) simples).toList = [] ∧ pseudo = true := by
  obtain ⟨-, hempty, hfit⟩ := h.shown
  rw [toList_compoundText]
  cases hshown : shown (showsUniversal simples pseudo) simples with
  | nil => exact .inr ⟨rfl, hempty hshown⟩
  | cons s rest =>
    obtain ⟨c, r, htext, hc, -⟩ := Simple.head_text (hfit s (hshown ▸ List.mem_cons_self))
    exact .inl ⟨c, r ++ rest.flatMap (·.text.toList), by rw [List.flatMap_cons, htext]; rfl, hc⟩

/-- White space before a compound is read as such: none follows it. -/
theorem ends_space (h : CompoundFits place pseudo simples) {rest : List Char}
    (hrest : endsCompound pseudo rest = true) :
    ((compoundText (showsUniversal simples pseudo) simples).toList ++ rest).head?.all
      (!isSpace ·) = true := by
  rcases head_compound h with ⟨c, r, htext, hc⟩ | ⟨htext, rfl⟩
  · rw [htext]
    simp [hc]
  · rw [htext]
    cases rest with
    | nil => cases hrest
    | cons c r =>
      obtain rfl : c = ':' := by simpa [endsCompound] using hrest
      rfl

end Compound

/-! ## Complex selectors -/

theorem Combinator.spells_leadingValues (c : Combinator) :
    Spells c.leadingValues c.leadingText.toList fun rest => rest.head?.all (!isSpace ·) = true := by
  have hlead : ∀ {d : Char}, (∀ rest, rest.head? = some ' ' →
      Lexeme.Spelled ⟨.delim d, [d], true⟩ rest) →
      Spells [delim d, space] [d, ' '] fun rest => rest.head?.all (!isSpace ·) = true := by
    intro d hd
    have hdelim : Spells [delim d] [d] fun rest => rest.head? = some ' ' := .token hd rfl rfl
    exact hdelim.append spells_space fun _ _ => rfl
  cases c with
  | descendant => exact .nil
  | child => exact hlead fun rest _ => spelled_fixed rfl rest
  | nextSibling => exact hlead fun rest hrest => spelled_plus hrest
  | laterSibling =>
    refine hlead fun rest hrest => spelled_delim (.inr (.inr rfl)) ?_
    rw [hrest]
    decide

theorem Combinator.spells_values (c : Combinator) :
    Spells c.values c.text.toList fun rest => rest.head?.all (!isSpace ·) = true := by
  have h := c.spells_leadingValues
  cases c with
  | descendant => exact spells_space
  | child | nextSibling | laterSibling => exact spells_space.append h fun _ _ => rfl

/-- A complex selector does not start with white space. -/
theorem Complex.head_textBefore {place : SelectorPlace} {relative pseudo : Bool} {c : Complex}
    (h : c.Fits place relative pseudo) :
    (∃ d r, (c.textBefore pseudo).toList = d :: r ∧ isSpace d = false) ∨
      (c.textBefore pseudo).toList = [] ∧ pseudo = true := by
  induction c using Complex.steps_induction generalizing pseudo with
  | compound simples =>
    cases h with
    | compound h => exact head_compound h
  | step simples c left ih =>
    cases h with
    | first h =>
      rw [textBefore, String.toList_append]
      cases c with
      | descendant => exact head_compound h
      | child => exact .inl ⟨'>', _, rfl, by decide⟩
      | nextSibling => exact .inl ⟨'+', _, rfl, by decide⟩
      | laterSibling => exact .inl ⟨'~', _, rfl, by decide⟩
    | step _ _ hleft =>
      obtain ⟨d, r, htext, hd⟩ := (ih hleft).resolve_right fun h => Bool.false_ne_true h.2
      rw [textBefore_step hleft.ne_anchor, String.toList_append, String.toList_append, htext]
      exact .inl ⟨d, _, rfl, hd⟩
  | anchor => cases h

theorem Complex.head_text {place : SelectorPlace} {relative : Bool} {c : Complex}
    (h : c.Fits place relative false) :
    ∃ d r, (c.textBefore false).toList = d :: r ∧ isSpace d = false :=
  (head_textBefore h).resolve_right fun h => Bool.false_ne_true h.2

theorem toList_listText (list : List Complex) :
    (listText list).toList = [',', ' '].intercalate (list.map (·.textBefore false |>.toList)) := by
  induction list with
  | nil => rfl
  | cons c rest ih =>
    cases rest with
    | nil => simp [listText]
    | cons d rest =>
      rw [List.map_cons] at ih
      rw [List.map_cons, List.map_cons, List.intercalate_cons_cons, ← ih]
      simp [listText]

theorem head_listText {place : SelectorPlace} {relative : Bool} {list : List Complex}
    (h : ListFits place relative list) :
    ∃ d r, (listText list).toList = d :: r ∧ isSpace d = false := by
  obtain ⟨hempty, hfit⟩ := h
  obtain ⟨c, rest, rfl⟩ := List.exists_cons_of_ne_nil hempty
  obtain ⟨d, r, htext, hd⟩ := Complex.head_text (hfit c List.mem_cons_self)
  rw [toList_listText, List.map_cons, htext, List.intercalate_cons_cons_left]
  exact ⟨d, _, rfl, hd⟩

/-- A list is spelled if its selectors are. -/
theorem spells_list {place : SelectorPlace} {relative : Bool} {list : List Complex}
    (h : ListFits place relative list)
    (hspells : ∀ c ∈ list, c.Fits place relative false →
      Spells (c.valuesBefore false) (c.textBefore false).toList
        fun rest => endsCompound false rest = true) :
    Spells (listValues list) (listText list).toList fun rest => endsEntry rest = true := by
  obtain ⟨-, hfit⟩ := h
  rw [listValues_eq_withCommas, toList_listText]
  refine spells_withCommas (fun c hc => ?_) fun c hc => head_of_cons (Complex.head_text (hfit c hc))
  exact (hspells c hc (hfit c hc)).mono fun rest hrest => endsSimple_of_endsEntry hrest

theorem Simple.spelled_id {name : String} (h : IsName name) : (id name).Spelled := by
  intro _
  have hhash := Spells.token (P := fun rest => endsSimple rest = true)
    (fun _ hrest => spelled_idHash h (endsIdent_of_endsSimple hrest)) rfl rfl
  simpa [text, values, identText] using hhash

theorem Simple.spelled_className {name : String} (h : IsName name) : (className name).Spelled := by
  intro _
  obtain ⟨c, r, hcr, -, -, hdigit⟩ := head_escapeIdent h
  have hdot : Spells [delim '.'] ['.'] fun rest => startsDigit rest = false :=
    .token (fun _ hrest => spelled_dot hrest) rfl rfl
  rw [text, String.toList_append]
  refine hdot.append (spells_ident_endsSimple h) fun rest _ => ?_
  rw [identText, String.toList_ofList, hcr]
  exact hdigit

theorem Simple.spelled_nth {test : NthTest} (h : test.Fits) : (nth test).Spelled := by
  intro _
  cases h with
  | implied side ofType =>
    exact spells_wordValues (NthTest.isWord_word _) (NthTest.name_eq_word _)
  | written hside hformula =>
    refine spells_functionValues (NthTest.isWord_word _) (AnPlusB.spells_values _)
      (fun _ => rfl) ?_
    simp [text, NthTest.name_eq_word]

/-- The list stands after the formula and the word `of`. -/
theorem Simple.spelled_nthOf {place : SelectorPlace} {list : List Complex}
    (h : ListFits place false list)
    (hlist : Spells (listValues list) (listText list).toList fun rest => endsEntry rest = true)
    (side : NthSide) (formula : AnPlusB) : (nthOf ⟨side, false, formula, true⟩ list).Spelled := by
  intro _
  obtain ⟨d, r, htext, hd⟩ := head_listText h
  have hof : isWord "of" = true := rfl
  have hlist := spells_space.append hlist fun rest _ => by simp [htext, hd]
  have hafter := spells_space.append ((spells_word hof).append hlist fun _ _ => rfl)
    fun _ _ => rfl
  have hbody := formula.spells_values.append hafter fun _ _ => rfl
  refine spells_functionValues (NthTest.isWord_word _) hbody (fun _ => rfl) ?_
  simp [text, NthTest.name_eq_word]

/-- Whatever fits its place is spelled. -/
theorem hereditary_spells : Hereditary (fun s => ∀ place, s.Fits place → s.Spelled)
    fun c => ∀ place relative pseudo, c.Fits place relative pseudo →
      Spells (c.valuesBefore pseudo) (c.textBefore pseudo).toList
        fun rest => endsCompound pseudo rest = true where
  simple s harguments hhosted place h hprefix := by
    have hlist : ∀ {p relative list}, ListFits p relative list → s.arguments = list →
        Spells (listValues list) (listText list).toList fun rest => endsEntry rest = true := by
      rintro p relative list h rfl
      exact spells_list h fun c hc => harguments c hc p relative false
    cases h with
    | localName h => exact spells_ident_endsSimple h
    | universal =>
      exact .token (fun _ hrest => spelled_delim (.inl rfl) (not_equals_of_endsSimple hrest)) rfl
        rfl
    | noNamespace => cases hprefix
    | id h => exact Simple.spelled_id h hprefix
    | className h => exact Simple.spelled_className h hprefix
    | «attribute» h => exact AttributeTest.spells_values h
    | root => exact spells_wordValues rfl rfl
    | empty => exact spells_wordValues rfl rfl
    | scope => exact spells_wordValues rfl rfl
    | nth h => exact Simple.spelled_nth h hprefix
    | nthOf _ _ h => exact Simple.spelled_nthOf h (hlist h rfl) _ _ hprefix
    | negation h | isAny h | whereAny h | has _ h =>
      exact spells_functionValues rfl (hlist h rfl) (fun _ => rfl) (by simp [Simple.text])
    | host h =>
      exact spells_functionValues rfl (spells_compound h hhosted) (fun _ => rfl)
        (by simp [Simple.text])
    | pseudoClass h => exact PseudoClass.spells_values h
  compound simples hsimples place relative pseudo h := by
    cases h with
    | compound h =>
      exact (spells_compound h hsimples).mono fun rest hrest => endsSimple_of_endsCompound hrest
  step simples c left hsimples hleft place relative pseudo h := by
    have hcompound : ∀ {p}, CompoundFits p pseudo simples →
        Spells (compoundValues (showsUniversal simples pseudo) simples)
          (compoundText (showsUniversal simples pseudo) simples).toList
          fun rest => endsCompound pseudo rest = true := by
      intro p h
      exact (spells_compound h hsimples).mono fun rest hrest => endsSimple_of_endsCompound hrest
    cases h with
    | first h =>
      have hspells := c.spells_leadingValues.append (hcompound h) fun rest hrest =>
        ends_space h hrest
      rw [Complex.textBefore, String.toList_append]
      exact hspells
    | step _ h hfits =>
      have hanchor := hfits.ne_anchor
      have hright := c.spells_values.append (hcompound h) fun rest hrest => ends_space h hrest
      have hspells := (hleft place relative false hfits).append hright fun rest _ => by
        cases c <;> rfl
      rw [Complex.valuesBefore_step hanchor, Complex.textBefore_step hanchor,
        String.toList_append, String.toList_append, List.append_assoc, List.append_assoc]
      exact hspells
  anchor place relative pseudo h := by cases h

/-! ## Selector lists -/

namespace Selector

theorem spells_values {s : Selector} (h : s.Fits) :
    Spells s.values s.text.toList fun rest => endsEntry rest = true := by
  obtain ⟨complex, pseudo⟩ := s
  have hcomplex := hereditary_spells.of_complex complex _ _ _ h.complex
  cases pseudo with
  | none =>
    rw [values, pseudoElement, Option.map_none, Option.elim_none, List.append_nil]
    exact hcomplex.mono fun rest hrest => endsSimple_of_endsEntry hrest
  | some p =>
    obtain ⟨p, filters⟩ := p
    obtain rfl : filters = [] := h.filters _ rfl
    have hspells := hcomplex.append p.spells_values fun rest _ => by
      rw [PseudoElement.text, String.toList_append]
      rfl
    have htext : text ⟨complex, some (p, [])⟩ = complex.textBefore true ++ p.text := by
      simp [text, compoundText]
    rw [htext, String.toList_append]
    exact hspells.mono fun rest hrest => endsSimple_of_endsEntry hrest

theorem head_text {s : Selector} (h : s.Fits) :
    ∃ d r, s.text.toList = d :: r ∧ isSpace d = false := by
  obtain ⟨complex, pseudo⟩ := s
  have hcomplex := Complex.head_textBefore h.complex
  cases pseudo with
  | none => exact hcomplex.resolve_right fun h => Bool.false_ne_true h.2
  | some p =>
    rw [text]
    simp only [String.toList_append, List.append_assoc]
    rcases hcomplex with ⟨d, r, htext, hd⟩ | ⟨htext, -⟩
    · rw [Option.isSome_some] at htext
      exact ⟨d, _, by rw [htext]; rfl, hd⟩
    · rw [Option.isSome_some] at htext
      exact ⟨':', _, by rw [htext, PseudoElement.text, String.toList_append]; rfl, by decide⟩

/-- The values of the text of a selector list. -/
theorem values_listText {list : List Selector} (h : ∀ s ∈ list, s.Fits) :
    Css.values (listText list) = withCommas (list.map values) := by
  have hspells := spells_withCommas (fun s hs => spells_values (h s hs))
    (fun s hs => head_of_cons (head_text (h s hs)))
  have htext : listText list = String.ofList ([',', ' '].intercalate
      (list.map fun s => s.text.toList)) := by
    rw [← String.toList_inj, String.toList_ofList, listText, String.toList_intercalate,
      List.map_map]
    rfl
  rw [htext, ← hspells.text]
  exact values_textOf (hspells.spelled [] rfl)

end Selector

end StyleTree
