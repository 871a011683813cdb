import StyleTree.Proofs.Css.MediaQueries
import StyleTree.Proofs.Css.Stops

/-!
# Media lists at their commas

A comma outside every block parts the queries before it from those behind it. Whatever stands
between two commas is one query, also if it cannot be read or is not there at all.
-/

namespace StyleTree

open Css

namespace MediaQuery

/-- The query that a text without commas stands for. -/
def parse (s : String) : MediaQuery :=
  ofValues (values s)

theorem ofValues_of_read? {vs : List ComponentValue} (h : read? vs = none) :
    ofValues vs = unreadable := by
  rw [ofValues, h, Option.getD_none]

end MediaQuery

namespace MediaList

/-! ## Entries -/

/-- The queries between the commas of the values. Nothing but blanks is a query as well, which
cannot be read. -/
def entries (vs : List ComponentValue) : List MediaQuery :=
  (pieces (·.isToken .comma) vs).map MediaQuery.ofValues

theorem queries_ofValues {vs : List ComponentValue} (h : isExhausted vs = false) :
    (ofValues vs).queries = entries vs := by
  simp [ofValues, h, entries]

theorem entries_ne_nil (vs : List ComponentValue) : entries vs ≠ [] := by
  simp [entries, pieces_ne_nil]

theorem length_entries (vs : List ComponentValue) :
    (entries vs).length = vs.countP (·.isToken .comma) + 1 := by
  rw [entries, List.length_map, length_pieces]

theorem entries_of_noComma {vs : List ComponentValue} (h : ∀ v ∈ vs, v.isToken .comma = false) :
    entries vs = [MediaQuery.ofValues vs] := by
  rw [entries, pieces_of_forall h, List.map_singleton]

theorem entries_append_comma {l : Lexeme} (hl : l.token = .comma) (vs us : List ComponentValue) :
    entries (vs ++ .token l :: us) = entries vs ++ entries us := by
  have hcomma : (ComponentValue.token l).isToken .comma = true := by
    simp [ComponentValue.isToken, hl]
  rw [entries, pieces_append_cons hcomma, List.map_append, entries, entries]

/-! ## Texts -/

theorem values_comma {a : String} (ha : IsClosed a) (b : String) :
    values (a ++ "," ++ b) = values a ++ .token ⟨.comma, [','], true⟩ :: values b :=
  values_append_stop ha rfl rfl (by decide) rfl b

theorem isExhausted_comma {a : String} (ha : IsClosed a) (b : String) :
    isExhausted (values (a ++ "," ++ b)) = false := by
  rw [values_comma ha]
  simp [isExhausted, ComponentValue.isBlank, Token.isBlank]

theorem entries_comma {a : String} (ha : IsClosed a) (b : String) :
    entries (values (a ++ "," ++ b)) = entries (values a) ++ entries (values b) := by
  rw [values_comma ha, entries_append_comma rfl]

/-- A closed text and another one, neither of them blank, parted by a comma. -/
theorem queries_comma {a b : String} (ha : IsClosed a) (hblank : isExhausted (values a) = false)
    (hblank' : isExhausted (values b) = false) :
    (parse (a ++ "," ++ b)).queries = (parse a).queries ++ (parse b).queries := by
  rw [parse, queries_ofValues (isExhausted_comma ha b), entries_comma ha, parse,
    queries_ofValues hblank, parse, queries_ofValues hblank']

/-- What stands between two commas is one entry, and nothing to the entries around it. -/
theorem queries_between {a b c : String} (ha : IsClosed a) (hb : IsClosed b)
    (hblank : isExhausted (values a) = false) (hblank' : isExhausted (values c) = false)
    (hcomma : ∀ v ∈ values b, v.isToken .comma = false) :
    (parse (a ++ "," ++ b ++ "," ++ c)).queries =
      (parse a).queries ++ MediaQuery.parse b :: (parse c).queries := by
  have htext : a ++ "," ++ b ++ "," ++ c = a ++ "," ++ (b ++ "," ++ c) := by
    simp only [String.append_assoc]
  rw [htext, queries_comma ha hblank (isExhausted_comma hb c), parse, parse,
    queries_ofValues (isExhausted_comma hb c), entries_comma hb, entries_of_noComma hcomma, parse,
    queries_ofValues hblank']
  rfl

/-- Texts without commas, put together with commas, are one entry each. -/
theorem entries_intercalate {ts : List String} (hne : ts ≠ []) (hclosed : ∀ t ∈ ts, IsClosed t)
    (hcomma : ∀ t ∈ ts, ∀ v ∈ values t, v.isToken .comma = false) :
    entries (values (",".intercalate ts)) = ts.map MediaQuery.parse := by
  induction ts with
  | nil => exact absurd rfl hne
  | cons t ts ih =>
    have hfirst := entries_of_noComma (hcomma t List.mem_cons_self)
    cases ts with
    | nil =>
      rw [String.intercalate_singleton, hfirst]
      rfl
    | cons u us =>
      have hrest := ih (List.cons_ne_nil u us) (fun t ht => hclosed t (List.mem_cons_of_mem _ ht))
        fun t ht => hcomma t (List.mem_cons_of_mem _ ht)
      rw [String.intercalate_cons_cons, entries_comma (hclosed t List.mem_cons_self), hfirst, hrest]
      rfl

/-! ## Media -/

theorem holds_of_ne_nil {l : MediaList} (h : l.queries ≠ []) (medium : String) :
    l.holds medium = l.queries.any (·.holds medium) := by
  simp [holds, h]

theorem holds_parse {s : String} (h : isExhausted (values s) = false) (medium : String) :
    (parse s).holds medium = (parse s).queries.any (·.holds medium) := by
  refine holds_of_ne_nil ?_ medium
  rw [parse, queries_ofValues h]
  exact entries_ne_nil _

/-- A block is part of one query, whatever it contains and wherever it ends. -/
theorem ofValues_block (before after : List ComponentValue) (o : Lexeme)
    (body body' : List ComponentValue) (close close' : Option Lexeme) :
    ofValues (before ++ .block o body close :: after) =
      ofValues (before ++ .block o body' close' :: after) := by
  have hbare : bareValues (before ++ .block o body close :: after) =
      bareValues (before ++ .block o body' close' :: after) := by
    simp [bareValues, ComponentValue.isBlank, ComponentValue.bare]
  rw [← ofValues_bareValues, hbare, ofValues_bareValues]

/-- Media lists are put together with commas. The queries of two texts with a comma between them are
those of the one and those of the other, and one of them holds where either list does. Texts without
commas outside their blocks are one query each. A text that cannot be read is one query, which
holds for no medium, and those around it are the same without it. There is one query more than there
are commas outside blocks, and nothing depends on what is inside a block. -/
theorem parse_commas :
    (∀ a b : String, IsClosed a → isExhausted (values a) = false →
      isExhausted (values b) = false →
        (parse (a ++ "," ++ b)).queries = (parse a).queries ++ (parse b).queries ∧
        ∀ medium, (parse (a ++ "," ++ b)).holds medium =
          ((parse a).holds medium || (parse b).holds medium)) ∧
    (∀ ts : List String, (∀ t ∈ ts, IsClosed t) →
      (∀ t ∈ ts, ∀ v ∈ values t, v.isToken .comma = false) →
      isExhausted (values (",".intercalate ts)) = false →
        (parse (",".intercalate ts)).queries = ts.map MediaQuery.parse) ∧
    (∀ a b c : String, IsClosed a → IsClosed b → isExhausted (values a) = false →
      isExhausted (values c) = false → (∀ v ∈ values b, v.isToken .comma = false) →
      MediaQuery.read? (values b) = none →
        (parse (a ++ "," ++ b ++ "," ++ c)).queries =
          (parse a).queries ++ MediaQuery.unreadable :: (parse c).queries ∧
        ∀ medium, MediaQuery.unreadable.holds medium = false ∧
          (parse (a ++ "," ++ b ++ "," ++ c)).holds medium =
            ((parse a).holds medium || (parse c).holds medium)) ∧
    (∀ s : String, isExhausted (values s) = false →
      (parse s).queries.length = (values s).countP (·.isToken .comma) + 1) ∧
    ∀ (s s' : String) (before after body body' : List ComponentValue) (o : Lexeme)
      (close close' : Option Lexeme), values s = before ++ .block o body close :: after →
      values s' = before ++ .block o body' close' :: after → parse s = parse s' := by
  refine ⟨fun a b ha hblank hblank' => ?_, fun ts hclosed hcomma hblank => ?_,
    fun a b c ha hb hblank hblank' hcomma hread => ?_, fun s hblank => ?_,
    fun s s' before after body body' o close close' hs hs' => ?_⟩
  · have hqueries := queries_comma ha hblank hblank'
    refine ⟨hqueries, fun medium => ?_⟩
    rw [holds_parse (isExhausted_comma ha b), hqueries, List.any_append, holds_parse hblank,
      holds_parse hblank']
  · have hne : ts ≠ [] := by
      rintro rfl
      rw [String.intercalate_nil, values, String.toList_empty, lexemes_nil] at hblank
      cases hblank
    rw [parse, queries_ofValues hblank, entries_intercalate hne hclosed hcomma]
  · have hqueries := queries_between ha hb hblank hblank' hcomma
    rw [MediaQuery.parse, MediaQuery.ofValues_of_read? hread] at hqueries
    refine ⟨hqueries, fun medium => ⟨rfl, ?_⟩⟩
    have hne : (parse (a ++ "," ++ b ++ "," ++ c)).queries ≠ [] := by
      rw [hqueries]
      simp
    rw [holds_of_ne_nil hne, hqueries, List.any_append, List.any_cons, holds_parse hblank,
      holds_parse hblank']
    rfl
  · rw [parse, queries_ofValues hblank, length_entries]
  · rw [parse, hs, ofValues_block before after o body body' close close', ← hs', parse]

theorem parse_commas_grid :
    (parse ("screen and (grid: a, b)" ++ "," ++ "scr$en" ++ "," ++ "not print, tv")).queries =
        [⟨false, some "screen", false⟩, .unreadable, ⟨true, some "print", false⟩,
          ⟨false, some "tv", false⟩] ∧
      (parse ("screen and (grid: a, b)" ++ "," ++ "not print, tv")).holds "speech" = true ∧
      (parse (",".intercalate ["", "all and (grid: a, b)", "not"])).queries =
        [.unreadable, ⟨false, none, false⟩, .unreadable] ∧
      (parse "(a,b)").queries.length = 1 ∧ parse "(a,b)" = parse "(c)" := by
  obtain ⟨hjoin, hlist, hunreadable, hcount, hblock⟩ := parse_commas
  have ha : IsClosed "screen and (grid: a, b)" := by decide +kernel
  have hb : IsClosed "scr$en" := by decide +kernel
  have hblank : isExhausted (values "screen and (grid: a, b)") = false := by decide +kernel
  have hblank' : isExhausted (values "not print, tv") = false := by decide +kernel
  refine ⟨?_, ?_, ?_, ?_, ?_⟩
  · rw [(hunreadable _ _ _ ha hb hblank hblank' (by decide +kernel) (by decide +kernel)).1]
    decide +kernel
  · rw [(hjoin _ _ ha hblank hblank').2]
    decide +kernel
  · rw [hlist _ (by decide +kernel) (by decide +kernel) (by decide +kernel)]
    decide +kernel
  · rw [hcount _ (by decide +kernel)]
    decide +kernel
  · have hpair : lexemes "(a,b)".toList =
        [⟨.parenOpen, ['('], true⟩, ⟨.ident "a", ['a'], true⟩, ⟨.comma, [','], true⟩,
          ⟨.ident "b", ['b'], true⟩, ⟨.parenClose, [')'], true⟩] := by
      decide +kernel
    have hsingle : lexemes "(c)".toList =
        [⟨.parenOpen, ['('], true⟩, ⟨.ident "c", ['c'], true⟩, ⟨.parenClose, [')'], true⟩] := by
      decide +kernel
    exact hblock _ _ [] [] _ _ _ _ _ (congrArg nest hpair) (congrArg nest hsingle)

end MediaList

end StyleTree
