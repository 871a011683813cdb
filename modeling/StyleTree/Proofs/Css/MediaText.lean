import StyleTree.Proofs.Css.Lists
import StyleTree.Proofs.Css.MediaLists
import StyleTree.Proofs.Text.Ascii

/-!
# Media lists that are written

What is written of a query is its media type and whether it is negated. Read again, that is the
query but for two things. A query that could not be read is written as one that holds for every
medium, and a media type is written without the escapes that it may need.
-/

namespace StyleTree

open Css Css.ComponentValue

theorem Css.IsName.lower {s : String} (h : IsName s) : IsName (Ascii.lower s) := by
  rw [IsName, Ascii.lower, String.toList_ofList]
  refine ⟨by simpa using h.1, fun hnull => ?_⟩
  obtain ⟨c, hc, hlower⟩ := List.mem_map.mp hnull
  exact h.2 (Ascii.eq_null_of_toLower hlower ▸ hc)

namespace MediaQuery

/-! ## Queries that are read -/

/-- The media type that a word stands for. -/
def typeOf (word : String) : Option String :=
  if Ascii.eqIgnoreCase word "all" then none else some (Ascii.lower word)

/-- The word that the media type is written as. -/
def word (q : MediaQuery) : String :=
  q.type.getD "all"

/-- The word of the query can be written, and stands for its media type. -/
structure HasWord (q : MediaQuery) : Prop where
  isName : IsName q.word
  notReserved : isReserved q.word = false
  typeOf_word : typeOf q.word = q.type

theorem hasWord_none (negated invalid : Bool) : HasWord ⟨negated, none, invalid⟩ :=
  ⟨show IsName "all" from isName_of_isWord (by decide), show isReserved "all" = false by decide,
    show typeOf "all" = none by decide⟩

theorem isReserved_lower (w : String) : isReserved (Ascii.lower w) = isReserved w := by
  rw [isReserved, funext (Ascii.eqIgnoreCase_lower w), isReserved]

theorem hasWord_typeOf {w : String} (hname : IsName w) (hreserved : isReserved w = false)
    (negated invalid : Bool) : HasWord ⟨negated, typeOf w, invalid⟩ := by
  cases hall : Ascii.eqIgnoreCase w "all" with
  | true =>
    rw [typeOf, if_pos hall]
    exact hasWord_none negated invalid
  | false =>
    have htype : typeOf w = some (Ascii.lower w) := if_neg (by simp [hall])
    have hlower : typeOf (Ascii.lower w) = some (Ascii.lower w) := by
      rw [typeOf, Ascii.eqIgnoreCase_lower, if_neg (by simp [hall]), Ascii.lower_lower]
    rw [htype]
    exact ⟨hname.lower, (isReserved_lower w).trans hreserved, hlower⟩

theorem type_of_body? {only : Bool} {vs rest : List ComponentValue} {type : Option String}
    (hvs : AllProper vs) (h : body? only vs = some (type, rest)) :
    type = none ∨ ∃ w, IsName w ∧ isReserved w = false ∧ type = typeOf w := by
  unfold body? at h
  split at h
  next w after hident =>
    split at h
    next => cases h
    next hreserved =>
      obtain ⟨_, -, heq⟩ := Option.map_eq_some_iff.mp h
      cases heq
      exact .inr ⟨w, (ident?_spec hvs hident).1, by simpa using hreserved, rfl⟩
  next =>
    split at h
    · cases h
    split at h
    · cases h
    · obtain ⟨_, -, heq⟩ := Option.map_eq_some_iff.mp h
      cases heq
      exact .inl rfl

theorem keyword?_getD_suffix (word : String) {vs : List ComponentValue} (hvs : AllProper vs) :
    (keyword? word vs).getD vs <:+ vs := by
  cases h : keyword? word vs with
  | none => exact List.suffix_refl vs
  | some rest => exact keyword?_suffix hvs h

theorem read?_spec {vs : List ComponentValue} {q : MediaQuery} (hvs : AllProper vs)
    (h : read? vs = some q) : q.invalid = false ∧ q.HasWord := by
  have hnot := hvs.of_suffix (keyword?_getD_suffix "not" hvs)
  unfold read? at h
  dsimp only at h
  split at h
  next type rest hbody =>
    split at h
    next =>
      cases h
      refine ⟨rfl, ?_⟩
      have htype := type_of_body? (by
        split
        · exact hnot.of_suffix (keyword?_getD_suffix "only" hnot)
        · exact hnot) hbody
      rcases htype with rfl | ⟨w, hname, hreserved, rfl⟩
      · exact hasWord_none _ _
      · exact hasWord_typeOf hname hreserved _ _
    next => cases h
  next => cases h

theorem ofValues_spec {vs : List ComponentValue} (hvs : AllProper vs) :
    (ofValues vs).HasWord ∧ ((ofValues vs).invalid = true → ofValues vs = unreadable) := by
  cases h : read? vs with
  | none =>
    rw [ofValues_of_read? h]
    exact ⟨hasWord_none _ _, fun _ => rfl⟩
  | some q =>
    obtain ⟨hvalid, hword⟩ := read?_spec hvs h
    rw [ofValues, h, Option.getD_some]
    refine ⟨hword, fun hinvalid => ?_⟩
    rw [hvalid] at hinvalid
    cases hinvalid

theorem holds_valid {q : MediaQuery} (h : q.invalid = true → q = unreadable) (medium : String) :
    { q with invalid := false }.holds medium = (q.holds medium || q.invalid) := by
  cases hinvalid : q.invalid with
  | true =>
    rw [h hinvalid, Bool.or_true]
    rfl
  | false =>
    have hq : { q with invalid := false } = q := by rw [← hinvalid]
    rw [hq, Bool.or_false]

/-! ## Queries that are written -/

/-- What is written for the query, as values. -/
def values (q : MediaQuery) : List ComponentValue :=
  (if q.negated then [ident "not", space] else []) ++ [ident q.word]

/-- The media type needs no escapes. -/
def IsPlain (q : MediaQuery) : Prop :=
  ∀ t, q.type = some t → identText t = t

theorem IsPlain.escapeIdent_word {q : MediaQuery} (h : q.IsPlain) :
    escapeIdent q.word.toList = q.word.toList := by
  have hword : identText q.word = q.word := by
    cases htype : q.type with
    | none =>
      rw [word, htype]
      decide
    | some t =>
      rw [word, htype]
      exact h t htype
  rw [← String.toList_ofList (l := escapeIdent q.word.toList)]
  exact congrArg String.toList hword

theorem head_word {q : MediaQuery} (hword : q.HasWord) (hplain : q.IsPlain) :
    ∃ c r, q.word.toList = c :: r ∧ isSpace c = false := by
  obtain ⟨c, r, hcr, hspace, -⟩ := head_escapeIdent hword.isName
  exact ⟨c, r, hplain.escapeIdent_word ▸ hcr, hspace⟩

theorem toList_text (q : MediaQuery) :
    q.text.toList = (if q.negated then ['n', 'o', 't', ' '] else []) ++ q.word.toList := by
  rw [text, String.toList_append, apply_ite String.toList]
  rfl

theorem head_text {q : MediaQuery} (hword : q.HasWord) (hplain : q.IsPlain) :
    ∃ c r, q.text.toList = c :: r ∧ isSpace c = false := by
  rw [toList_text]
  cases q.negated with
  | false => exact head_word hword hplain
  | true => exact ⟨'n', _, rfl, rfl⟩

theorem spells_values {q : MediaQuery} (hword : q.HasWord) (hplain : q.IsPlain) :
    Spells q.values q.text.toList fun rest => endsEntry rest = true := by
  have hident : Spells [ident q.word] q.word.toList fun rest => endsEntry rest = true := by
    have hspells := spells_ident hword.isName
    rw [hplain.escapeIdent_word] at hspells
    exact hspells.mono fun rest hrest => endsIdent_of_endsEntry hrest
  rw [toList_text, values]
  cases q.negated with
  | false => exact hident
  | true =>
    have hnot : Spells [ident "not"] ['n', 'o', 't'] fun rest => endsIdent rest = true :=
      spells_word (by decide)
    obtain ⟨c, r, hcr, hspace⟩ := head_word hword hplain
    exact hnot.append (spells_space.append hident fun rest _ => by simp [hcr, hspace]) fun _ _ => rfl

/-! ## Queries that are read again -/

theorem body?_word {w : String} (h : isReserved w = false) {lead : List ComponentValue}
    (hlead : lead = [] ∨ lead = [space]) :
    body? false (lead ++ [ident w]) = some (typeOf w, []) := by
  have hident : ident? (lead ++ [ident w]) = some (w, []) := by
    rcases hlead with rfl | rfl <;> rfl
  rw [body?, hident]
  dsimp only
  rw [h]
  rfl

theorem read?_word {w : String} (h : isReserved w = false) :
    read? [ident w] = some ⟨false, typeOf w, false⟩ := by
  have hkeyword (word : String) (hword : Ascii.eqIgnoreCase w word = false) :
      keyword? word [ident w] = none :=
    if_neg (by simp [hword])
  have hwords := h
  simp only [isReserved, List.any_cons, Bool.or_eq_false_iff] at hwords
  have hbody : body? false [ident w] = some (typeOf w, []) := body?_word h (.inl rfl)
  simp [read?, hkeyword "not" hwords.1, hkeyword "only" hwords.2.1, hbody, isExhausted]

theorem read?_not_word {w : String} (h : isReserved w = false) :
    read? [ident "not", space, ident w] = some ⟨true, typeOf w, false⟩ := by
  have hnot : keyword? "not" [ident "not", space, ident w] = some [space, ident w] :=
    rfl
  have hbody : body? false [space, ident w] = some (typeOf w, []) := body?_word h (.inr rfl)
  simp [read?, hnot, hbody, isExhausted]

/-- What is written for a query is read as the query, but that it can be read. -/
theorem ofValues_values {q : MediaQuery} (h : q.HasWord) {lead : List ComponentValue}
    (hlead : lead = [] ∨ lead = [space]) :
    ofValues (lead ++ q.values) = { q with invalid := false } := by
  have hbare : ofValues (lead ++ q.values) = ofValues q.values := by
    rcases hlead with rfl | rfl
    · rfl
    · rw [ofValues, ← read?_bareValues, List.singleton_append, bareValues_cons_blank rfl,
        read?_bareValues, ofValues]
  have hread : read? q.values = some ⟨q.negated, typeOf q.word, false⟩ := by
    rw [values]
    cases q.negated with
    | false => exact read?_word h.notReserved
    | true => exact read?_not_word h.notReserved
  rw [hbare, ofValues, hread, h.typeOf_word]
  rfl

end MediaQuery

namespace MediaList

/-! ## Lists that are written -/

theorem queries_spec {s : String} {q : MediaQuery} (h : q ∈ (parse s).queries) :
    q.HasWord ∧ (q.invalid = true → q = .unreadable) := by
  rw [parse, ofValues] at h
  split at h
  · cases h
  · obtain ⟨piece, hpiece, rfl⟩ := List.mem_map.mp h
    exact MediaQuery.ofValues_spec ((allProper_values s).of_mem_pieces hpiece)

theorem toList_text (l : MediaList) :
    l.text.toList = [',', ' '].intercalate (l.queries.map fun q => q.text.toList) := by
  rw [text, String.toList_intercalate, List.map_map]
  rfl

theorem values_text {l : MediaList} (hwords : ∀ q ∈ l.queries, q.HasWord)
    (hplain : ∀ q ∈ l.queries, q.IsPlain) :
    values l.text = withCommas (l.queries.map MediaQuery.values) := by
  have hspells := spells_withCommas
    (fun q hq => MediaQuery.spells_values (hwords q hq) (hplain q hq))
    (fun q hq => head_of_cons (MediaQuery.head_text (hwords q hq) (hplain q hq)))
  rw [← String.ofList_toList (s := l.text), toList_text, ← hspells.text]
  exact values_textOf (hspells.spelled [] rfl)

theorem noComma_values (q : MediaQuery) : ∀ v ∈ q.values, v.isToken .comma = false := by
  rw [MediaQuery.values]
  cases q.negated <;> simp [ComponentValue.isToken, ident, space]

theorem entries_withCommas {qs : List MediaQuery} (hne : qs ≠ []) (hwords : ∀ q ∈ qs, q.HasWord) :
    entries (withCommas (qs.map MediaQuery.values)) =
      qs.map fun q => { q with invalid := false } := by
  have hread := mapM_pieces_withCommas (f := fun vs => some (MediaQuery.ofValues vs))
    (g := fun q : MediaQuery => { q with invalid := false }) hne (.inl rfl)
    (fun q _ => noComma_values q)
    fun q hq lead hlead => congrArg some (MediaQuery.ofValues_values (hwords q hq) hlead)
  exact Option.some.inj (List.mapM_pure.symm.trans hread)

theorem isExhausted_withCommas {qs : List MediaQuery} (hne : qs ≠ []) :
    isExhausted (withCommas (qs.map MediaQuery.values)) = false := by
  obtain ⟨q, qs, rfl⟩ := List.exists_cons_of_ne_nil hne
  have hmem : ident q.word ∈ withCommas ((q :: qs).map MediaQuery.values) :=
    subset_withCommas List.mem_cons_self (List.mem_append_right _ List.mem_cons_self)
  exact List.all_eq_false.mpr ⟨_, hmem, by simp [ComponentValue.isBlank, ident, Token.isBlank]⟩

theorem queries_text {l : MediaList} (hwords : ∀ q ∈ l.queries, q.HasWord)
    (hplain : ∀ q ∈ l.queries, q.IsPlain) :
    (parse l.text).queries = l.queries.map fun q => { q with invalid := false } := by
  rw [parse, values_text hwords hplain]
  by_cases hne : l.queries = []
  · rw [hne]
    rfl
  · rw [queries_ofValues (isExhausted_withCommas hne), entries_withCommas hne hwords]

/-- A media list whose types need no escapes says the same when its text is read, but that every
query that could not be read has become one that holds for every medium. -/
theorem parse_text (s : String) (h : ∀ q ∈ (parse s).queries, q.IsPlain) :
    (parse (parse s).text).queries =
        (parse s).queries.map (fun q => { q with invalid := false }) ∧
      ∀ medium, (parse (parse s).text).holds medium =
        ((parse s).holds medium || (parse s).queries.any (·.invalid)) := by
  have hqueries := queries_text (fun q hq => (queries_spec hq).1) h
  refine ⟨hqueries, fun medium => ?_⟩
  have hany : (parse s).queries.any (fun q => { q with invalid := false }.holds medium) =
      ((parse s).queries.any (·.holds medium) || (parse s).queries.any (·.invalid)) := by
    rw [Bool.eq_iff_iff, Bool.or_eq_true, List.any_eq_true, List.any_eq_true, List.any_eq_true,
      ← exists_or]
    refine exists_congr fun q => ?_
    rw [← and_or_left, ← Bool.or_eq_true]
    exact and_congr_right fun hq => by rw [MediaQuery.holds_valid (queries_spec hq).2]
  rw [holds, holds, hqueries, List.isEmpty_map, List.any_map, Bool.or_assoc, ← hany]
  rfl

theorem parse_text_screen :
    (parse "not screen, scr$en").holds "screen" = false ∧
      (parse (parse "not screen, scr$en").text).queries =
        [⟨true, some "screen", false⟩, ⟨false, none, false⟩] ∧
      (parse (parse "not screen, scr$en").text).holds "screen" = true := by
  have hqueries : (parse "not screen, scr$en").queries =
      [⟨true, some "screen", false⟩, .unreadable] := by
    decide +kernel
  have hplain : ∀ q ∈ (parse "not screen, scr$en").queries, q.IsPlain := by
    rw [hqueries]
    refine List.forall_mem_cons.mpr ⟨?_, List.forall_mem_singleton.mpr nofun⟩
    rintro t ⟨⟩
    decide
  obtain ⟨hread, hholds⟩ := parse_text _ hplain
  refine ⟨by decide +kernel, by rw [hread, hqueries]; rfl, ?_⟩
  rw [hholds, hqueries]
  exact Bool.or_true _

/-- A query that cannot be read holds for no medium, and its text for every one; the escaped comma
of a media type is written as one that parts queries. -/
theorem text_unreadable :
    (parse "scr$en").holds "screen" = false ∧ (parse "scr$en").text = "all" ∧
      (parse (parse "scr$en").text).holds "screen" = true ∧
      (parse "print\\,tv").holds "tv" = false ∧ (parse "print\\,tv").text = "print,tv" ∧
      (parse (parse "print\\,tv").text).holds "tv" = true := by
  decide +kernel

end MediaList

end StyleTree
