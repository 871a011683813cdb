import StyleTree.Css.Declaration
import StyleTree.Proofs.Text.Split
import StyleTree.Proofs.Text.Trim
import StyleTree.Proofs.Css.Blanks
import StyleTree.Proofs.Css.Stops

/-!
# Declarations one after another

A semicolon outside every block parts the declarations before it from those behind it, however they
are spelled. Of one declaration the value is kept as a text, which is trimmed: the text has the
tokens that were read unless a token ends in a blank.
-/

namespace StyleTree.Declaration

open Css

/-! ## Between semicolons -/

theorem ofValues_append_semicolon {l : Lexeme} (hl : l.token = .semicolon)
    (vs us : List ComponentValue) :
    ofValues (vs ++ .token l :: us) = ofValues vs ++ ofValues us := by
  have hsemicolon : (ComponentValue.token l).isToken .semicolon = true := by
    simp [ComponentValue.isToken, hl]
  rw [ofValues, pieces_append_cons hsemicolon, List.filterMap_append, ofValues, ofValues]

/-- A closed text and another one, parted by a semicolon. -/
theorem values_semicolon {a : String} (ha : IsClosed a) (b : String) :
    values (a ++ ";" ++ b) = values a ++ .token ⟨.semicolon, [';'], true⟩ :: values b :=
  values_append_stop ha rfl rfl (by decide) rfl b

theorem parse_semicolon {a : String} (ha : IsClosed a) (b : String) :
    parse (a ++ ";" ++ b) = parse a ++ parse b := by
  rw [parse, values_semicolon ha, ofValues_append_semicolon rfl, parse, parse]

/-- The declarations of two texts with a semicolon between them are those of the one and those of
the other, if the first ends outside every block and token: a declaration that cannot be read leaves
those around it as they are. -/
theorem parse_independent {a : String} (ha : IsClosed a) (b : String) :
    parse (a ++ ";" ++ b) = parse a ++ parse b ∧
      ∀ c, IsClosed b → parse b = [] → parse (a ++ ";" ++ b ++ ";" ++ c) = parse a ++ parse c := by
  refine ⟨parse_semicolon ha b, fun c hb hnone => ?_⟩
  have htext : a ++ ";" ++ b ++ ";" ++ c = a ++ ";" ++ (b ++ ";" ++ c) := by
    simp only [String.append_assoc]
  rw [htext, parse_semicolon ha, parse_semicolon hb, hnone, List.nil_append]

theorem parse_independent_unreadable :
    IsClosed "color: red" ∧ IsClosed "width: 1px !bogus" ∧ parse "width: 1px !bogus" = [] ∧
      parse ("color: red" ++ ";" ++ "width: 1px !bogus" ++ ";" ++ "margin: 0") =
        parse "color: red" ++ parse "margin: 0" := by
  have ha : IsClosed "color: red" := by decide +kernel
  have hb : IsClosed "width: 1px !bogus" := by decide +kernel
  have hnone : parse "width: 1px !bogus" = [] := by decide +kernel
  exact ⟨ha, hb, hnone, (parse_independent ha "width: 1px !bogus").2 _ hb hnone⟩

/-! ## The parts of a declaration -/

/-- What the values of a declaration are: its name, a colon, the value as it is written, and from
an exclamation mark on the mark of importance. -/
structure Parts (vs : List ComponentValue) where
  before : List ComponentValue
  ident : Lexeme
  between : List ComponentValue
  colon : Lexeme
  source : List ComponentValue
  mark : List ComponentValue
  name : String
  important : Bool
  values_eq : vs = before ++ .token ident :: (between ++ .token colon :: (source ++ mark))
  before_blank : ∀ v ∈ before, v.isBlank = true
  between_blank : ∀ v ∈ between, v.isBlank = true
  ident_eq : ident.token = .ident name
  colon_eq : colon.token = .colon
  source_plain : ∀ v ∈ source, v.isToken (.delim '!') = false
  mark_bang : ∀ v rest, mark = v :: rest → v.isToken (.delim '!') = true
  importance_eq : importance? mark = some important

namespace Parts

variable {vs : List ComponentValue}

/-- The text between the colon and the mark of importance. -/
def text (p : Parts vs) : List Char :=
  textOf p.source

def declaration (p : Parts vs) : Declaration :=
  ⟨canonicalName p.name, String.ofList (trimBlank p.text), p.important⟩

end Parts

theorem splitAtBang_append {source mark : List ComponentValue}
    (hsource : ∀ v ∈ source, v.isToken (.delim '!') = false)
    (hmark : ∀ v rest, mark = v :: rest → v.isToken (.delim '!') = true) :
    splitAtBang (source ++ mark) = (source, mark) := by
  have hsource : ∀ v ∈ source, (!v.isToken (.delim '!')) = true := by simpa using hsource
  rw [splitAtBang, List.span_eq_takeWhile_dropWhile, List.takeWhile_append_of_pos hsource,
    List.dropWhile_append_of_pos hsource]
  cases mark with
  | nil => simp
  | cons v rest => simp [hmark v rest rfl]

theorem splitAtBang_spec (vs : List ComponentValue) :
    vs = (splitAtBang vs).1 ++ (splitAtBang vs).2 ∧
      (∀ v ∈ (splitAtBang vs).1, v.isToken (.delim '!') = false) ∧
      ∀ v rest, (splitAtBang vs).2 = v :: rest → v.isToken (.delim '!') = true := by
  rw [splitAtBang, List.span_eq_takeWhile_dropWhile]
  refine ⟨List.takeWhile_append_dropWhile.symm, fun v hv => ?_, fun v rest h => ?_⟩
  · simpa using List.mem_takeWhile_imp hv
  · have hhead := List.head?_dropWhile_not (fun v => !v.isToken (.delim '!')) vs
    rw [show vs.dropWhile (fun v => !v.isToken (.delim '!')) = v :: rest from h] at hhead
    simpa using hhead

/-- A declaration is dropped only if the text of its value is blank. -/
theorem Parts.read?_eq {vs : List ComponentValue} (p : Parts vs) :
    read? vs = if trimBlank p.text = [] then none else some p.declaration := by
  have hname : ident? vs = some (p.name, p.between ++ .token p.colon :: (p.source ++ p.mark)) := by
    refine ident?_eq_some_iff.mpr ⟨p.ident, p.ident_eq, ?_⟩
    conv_lhs => rw [p.values_eq]
    rw [skipBlank_of_blanks p.before_blank, skipBlank_cons]
    rw [ComponentValue.isBlank, p.ident_eq]
    rfl
  have hcolon : p.colon = ⟨.colon, p.colon.text, p.colon.complete⟩ := by rw [← p.colon_eq]
  have hskip : skipBlank (p.between ++ .token p.colon :: (p.source ++ p.mark)) =
      .token ⟨.colon, p.colon.text, p.colon.complete⟩ :: (p.source ++ p.mark) := by
    rw [skipBlank_of_blanks p.between_blank, hcolon]
    exact skipBlank_cons rfl _
  rw [read?, hname]
  dsimp only
  rw [hskip]
  dsimp only
  rw [splitAtBang_append p.source_plain p.mark_bang, p.importance_eq]
  simp only [List.isEmpty_iff]
  rfl

theorem exists_parts {vs : List ComponentValue} {d : Declaration} (h : read? vs = some d) :
    ∃ p : Parts vs, trimBlank p.text ≠ [] ∧ d = p.declaration := by
  unfold read? at h
  split at h
  · cases h
  next name rest hident =>
    obtain ⟨ident, hname, hskip⟩ := ident?_eq_some_iff.mp hident
    split at h
    next text complete value hcolon =>
      obtain ⟨before, hbefore, hvs⟩ := exists_append_skipBlank vs
      obtain ⟨between, hbetween, hrest⟩ := exists_append_skipBlank rest
      obtain ⟨hparts, hplain, hbang⟩ := splitAtBang_spec value
      simp only [List.isEmpty_iff] at h
      split at h
      · cases h
      next hvalue =>
        obtain ⟨important, himportance, rfl⟩ := Option.map_eq_some_iff.mp h
        refine ⟨⟨before, ident, between, ⟨.colon, text, complete⟩, (splitAtBang value).1,
          (splitAtBang value).2, name, important, ?_, hbefore, hbetween, hname, rfl, hplain, hbang,
          himportance⟩, hvalue, rfl⟩
        rw [← hparts, ← hcolon, ← hrest, ← hskip, ← hvs]
    next => cases h

/-! ## The tokens of a value -/

theorem exists_token_of_isToken {t : Token} {v : ComponentValue} (h : v.isToken t = true) :
    ∃ l, v = .token l ∧ l.token = t := by
  cases v with
  | token l => exact ⟨l, rfl, beq_iff_eq.mp h⟩
  | block => cases h

/-- What follows the exclamation mark starts with a blank or with the word. -/
theorem head_of_importance? {v : ComponentValue} {rest : List ComponentValue} {important : Bool}
    (h : importance? (v :: rest) = some important) :
    ∃ l after, rest = .token l :: after ∧ (l.token.isBlank = true ∨
      ∃ x, l.token = .ident x ∧ Ascii.eqIgnoreCase x "important" = true) := by
  rw [importance?] at h
  split at h
  next hkeyword =>
    unfold keyword? at hkeyword
    split at hkeyword
    next x after hident =>
      split at hkeyword
      next hword =>
        obtain ⟨l, hl, hskip⟩ := ident?_eq_some_iff.mp hident
        obtain ⟨before, hbefore, hrest⟩ := exists_append_skipBlank rest
        rw [hskip] at hrest
        cases before with
        | nil => exact ⟨l, after, hrest, .inr ⟨x, hl, hword⟩⟩
        | cons u before =>
          have hu := hbefore u List.mem_cons_self
          cases u with
          | token u => exact ⟨u, _, hrest, .inl hu⟩
          | block => cases hu
      next => cases hkeyword
    next => cases hkeyword
  next => cases h

/-- Where a mark of importance starts, the text before it ends. -/
theorem endsTokens_of_importance? {s : List Char} {v : ComponentValue}
    {mark after : List ComponentValue} {important : Bool}
    (h : importance? (v :: mark) = some important)
    (hs : lexemes s = flatten (mark ++ after)) : endsTokens ('!' :: s) = true := by
  obtain ⟨l, rest, rfl, hl⟩ := head_of_importance? h
  rw [List.cons_append, flatten, ComponentValue.flat] at hs
  have hhyphens : s.take 2 ≠ ['-', '-'] := by
    intro htake
    obtain ⟨w, rfl⟩ : ∃ w, s = '-' :: '-' :: w := ⟨s.drop 2, by
      conv_lhs => rw [← List.take_append_drop 2 s, htake]
      rfl⟩
    rw [lexemes_cons] at hs
    obtain ⟨hhead, -⟩ := List.cons.inj hs
    obtain ⟨hblank, hident⟩ := token_hyphens w
    have htoken : l.token = (token '-' ('-' :: w)).value := by rw [← hhead]; rfl
    rcases hl with hl | ⟨x, hx, hword⟩
    · rw [htoken, hblank] at hl
      cases hl
    · have hfirst := hident x (htoken ▸ hx)
      rw [Ascii.eqIgnoreCase, beq_iff_eq] at hword
      have hlower := congrArg List.head? hword
      rw [List.head?_map, hfirst] at hlower
      revert hlower
      decide
  simpa [endsTokens, isSpace, isNewline, isStop] using hhyphens

/-- The tokens that are read between the colon and the mark of importance are those of the text
there. -/
theorem lexemes_source {s : String} {piece : List ComponentValue}
    (hpiece : piece ∈ pieces (·.isToken .semicolon) (values s)) (p : Parts piece) :
    lexemes p.text = flatten p.source := by
  obtain ⟨before, after, hvalues, hafter⟩ := exists_append_of_mem_pieces hpiece
  have hall : lexemes s.toList =
      flatten (before ++ (p.before ++ .token p.ident :: (p.between ++ [.token p.colon]))) ++
        flatten (p.source ++ (p.mark ++ after)) := by
    rw [← flatten_append, ← flatten_values, hvalues]
    conv_lhs => rw [p.values_eq]
    simp
  have htext : (flatten p.source).flatMap Lexeme.text = p.text := (textOf_eq_flatMap _).symm
  have hsource := lexemes_of_suffix hall
  rw [flatten_append] at hsource
  -- The source ends with the text, or before a character that ends tokens.
  have hends : flatten (p.mark ++ after) = [] ∨ ∃ l ls x, flatten (p.mark ++ after) = l :: ls ∧
      l.token.stop? = some x ∧ endsTokens (x :: ls.flatMap Lexeme.text) = true := by
    cases hmark : p.mark with
    | cons v mark =>
      obtain ⟨l, rfl, hl⟩ := exists_token_of_isToken (p.mark_bang v mark hmark)
      have hbehind : lexemes ((flatten p.source ++ flatten (p.mark ++ after)).flatMap Lexeme.text) =
          flatten p.source ++ [l] ++ flatten (mark ++ after) := by
        rw [hsource, hmark, List.append_assoc]
        rfl
      exact .inr ⟨l, flatten (mark ++ after), '!', rfl, by rw [hl]; rfl,
        endsTokens_of_importance? (hmark ▸ p.importance_eq) (lexemes_of_suffix hbehind)⟩
    | nil =>
      cases after with
      | nil => exact .inl rfl
      | cons v after =>
        obtain ⟨l, rfl, hl⟩ := exists_token_of_isToken (hafter v after rfl)
        exact .inr ⟨l, flatten after, ';', rfl, by rw [hl]; rfl, rfl⟩
  rcases hends with hnil | ⟨l, ls, x, hcons, hstop, hends⟩
  · rwa [hnil, List.append_nil, htext] at hsource
  · rw [hcons] at hsource
    rw [← htext]
    exact (lexemes_of_stop? hsource hstop hends).1

def tokensOf (s : List Char) : List Token :=
  (lexemes s).map Lexeme.token

/-- Trimming the text cuts white space of style sheets only, and none that a token ends in: if
anything is cut at the end, what stays does not end within a string, a comment, a URL or an
escape. -/
def TrimsSpace (s : List Char) : Prop :=
  ∃ before after, s = before ++ (trimBlank s ++ after) ∧
    (∀ c ∈ before ++ after, isSpace c = true) ∧ (after = [] ∨ IsWhole (trimBlank s))

theorem tokensOf_dropWhile_isSpace (s : List Char) :
    ∃ blanks, (∀ t ∈ blanks, t.isBlank = true) ∧
      tokensOf s = blanks ++ tokensOf (s.dropWhile isSpace) := by
  obtain ⟨blanks, hblanks, hs⟩ := lexemes_dropWhile_isSpace s
  refine ⟨blanks.map Lexeme.token, fun t ht => ?_, by rw [tokensOf, hs, List.map_append, tokensOf]⟩
  obtain ⟨l, hl, rfl⟩ := List.mem_map.mp ht
  rw [hblanks l hl]
  rfl

theorem tokensOf_of_isSpace {s : List Char} (h : ∀ c ∈ s, isSpace c = true) :
    ∀ t ∈ tokensOf s, t.isBlank = true := by
  obtain ⟨blanks, hblanks, htokens⟩ := tokensOf_dropWhile_isSpace s
  rw [List.dropWhile_eq_nil_iff.mpr h, tokensOf, tokensOf, lexemes_nil, List.map_nil,
    List.append_nil] at htokens
  rwa [tokensOf, htokens]

theorem isBlank_of_isSpace {c : Char} (h : isSpace c = true) : StyleTree.isBlank c = true := by
  simp only [isSpace, isNewline, Bool.or_eq_true, beq_iff_eq] at h
  rcases h with (rfl | rfl) | (rfl | rfl) | rfl <;> decide

/-- Trimming keeps the tokens where it cuts nothing that is part of one. -/
theorem tokensOf_trimBlank {s : List Char} (h : TrimsSpace s) :
    trimWhile Token.isBlank (tokensOf (trimBlank s)) = trimWhile Token.isBlank (tokensOf s) := by
  obtain ⟨before, after, hs, hspace, hend⟩ := h
  have hbefore : ∀ c ∈ before, isSpace c = true := fun c hc =>
    hspace c (List.mem_append_left _ hc)
  have hafter : ∀ c ∈ after, isSpace c = true := fun c hc =>
    hspace c (List.mem_append_right _ hc)
  cases htrim : trimBlank s with
  | nil =>
    rw [htrim, List.nil_append] at hs
    have hblank := tokensOf_of_isSpace (hs ▸ hspace)
    rw [trimWhile_eq_nil_iff.mpr hblank, tokensOf, lexemes_nil]
    rfl
  | cons c r =>
    have hc : isSpace c = false := by
      by_contra hc
      have hblank := not_of_trimWhile_eq_cons (trimBlank_eq_trimWhile s ▸ htrim)
      rw [isBlank_of_isSpace (by simpa using hc)] at hblank
      cases hblank
    obtain ⟨blanks, hblanks, htokens⟩ := tokensOf_dropWhile_isSpace s
    have hdrop : s.dropWhile isSpace = (c :: r) ++ after := by
      conv_lhs => rw [hs, htrim, List.dropWhile_append_of_pos hbefore]
      exact List.dropWhile_cons_of_neg (by simp [hc])
    rw [htokens, trimWhile_append_left hblanks, hdrop]
    rcases hend with rfl | hwhole
    · rw [List.append_nil]
    · have hends : endsTokens after = true := by
        rw [endsTokens, List.dropWhile_eq_nil_iff.mpr hafter]
      obtain ⟨sp, rest, ls, -, hsp, hlexemes, hls⟩ := tokens_append (htrim ▸ hwhole) hends
      have hrest := tokensOf_of_isSpace fun c hc => hafter c (hsp ▸ List.mem_append_right _ hc)
      have happend : tokensOf ((c :: r) ++ after) = tokensOf (c :: r) ++ tokensOf rest := by
        rw [tokensOf, hlexemes, List.map_append, hls, tokensOf, tokensOf]
      rw [happend, trimWhile_append_right hrest]

/-- The declarations of a text are the pieces between semicolons that have the parts of one and a
value that is not blank. The tokens of the value are those between the colon and the mark of
importance, but for blanks at both ends, unless the trimming cuts a token. -/
theorem parse_tokens (s : String) :
    (∀ d, d ∈ parse s ↔
      ∃ piece ∈ pieces (·.isToken .semicolon) (values s), ∃ p : Parts piece,
        (∃ c ∈ p.text, StyleTree.isBlank c = false) ∧ d = p.declaration) ∧
    ∀ piece ∈ pieces (·.isToken .semicolon) (values s), ∀ p : Parts piece,
      lexemes p.text = flatten p.source ∧
        (TrimsSpace p.text →
          trimWhile Token.isBlank (tokensOf p.declaration.value.toList) =
            trimWhile Token.isBlank ((flatten p.source).map Lexeme.token)) := by
  have hblank {piece : List ComponentValue} (p : Parts piece) :
      trimBlank p.text ≠ [] ↔ ∃ c ∈ p.text, StyleTree.isBlank c = false := by
    rw [trimBlank_eq_trimWhile, Ne, trimWhile_eq_nil_iff]
    simp
  constructor
  · intro d
    rw [parse, ofValues, List.mem_filterMap]
    constructor
    · rintro ⟨piece, hpiece, hread⟩
      obtain ⟨p, hvalue, rfl⟩ := exists_parts hread
      exact ⟨piece, hpiece, p, (hblank p).mp hvalue, rfl⟩
    · rintro ⟨piece, hpiece, p, hvalue, rfl⟩
      exact ⟨piece, hpiece, by rw [p.read?_eq, if_neg ((hblank p).mpr hvalue)]⟩
  · intro piece hpiece p
    have hsource := lexemes_source hpiece p
    refine ⟨hsource, fun htrims => ?_⟩
    have hvalue : p.declaration.value.toList = trimBlank p.text := String.toList_ofList
    rw [hvalue, tokensOf_trimBlank htrims, tokensOf, hsource]

theorem parse_tokens_important :
    ∃ piece ∈ pieces (·.isToken .semicolon) (values "color: red !important"),
      ∃ p : Parts piece, TrimsSpace p.text ∧ p.declaration = ⟨"color", "red", true⟩ ∧
        trimWhile Token.isBlank (tokensOf p.declaration.value.toList) =
          trimWhile Token.isBlank ((flatten p.source).map Lexeme.token) := by
  have hlexemes : lexemes "color: red !important".toList =
      [⟨.ident "color", "color".toList, true⟩, ⟨.colon, [':'], true⟩, ⟨.whitespace, [' '], true⟩,
        ⟨.ident "red", "red".toList, true⟩, ⟨.whitespace, [' '], true⟩, ⟨.delim '!', ['!'], true⟩,
        ⟨.ident "important", "important".toList, true⟩] := by
    decide +kernel
  have hpieces : pieces (·.isToken .semicolon) (values "color: red !important") = [_] :=
    congrArg (pieces (·.isToken .semicolon) <| nest ·) hlexemes
  refine ⟨_, hpieces ▸ List.mem_singleton_self _, ⟨[], _, [], _, [_, _, _], [_, _], "color", true,
    rfl, nofun, nofun, rfl, rfl, by decide, ?_, by decide +kernel⟩, ?_⟩
  · rintro _ _ ⟨⟩
    rfl
  · have htrims : TrimsSpace " red ".toList :=
      ⟨[' '], [' '], rfl, by simp [isSpace], .inr (by decide +kernel)⟩
    exact ⟨htrims, by decide,
      ((parse_tokens _).2 _ (hpieces ▸ List.mem_singleton_self _) _).2 htrims⟩

/-- A no-break space may end an identifier, and may be one, but is cut. -/
theorem parse_noBreakSpace :
    parse "color: red\u00a0" = [⟨"color", "red", false⟩] ∧
      trimWhile Token.isBlank (tokensOf "red".toList) ≠
        trimWhile Token.isBlank (tokensOf " red\u00a0".toList) ∧
      parse "width: \u00a0" = [] ∧ .ident "\u00a0" ∈ tokensOf " \u00a0".toList := by
  decide +kernel

end StyleTree.Declaration
