import StyleTree.Css.RuleList
import StyleTree.Proofs.Css.Stops

/-!
# Rule lists one after another

A rule reaches to its block in braces or its semicolon and no further, so a list whose last rule is
closed is read alike whatever comes next. Only the places differ; `rules` is what a list holds
without them.
-/

namespace StyleTree.Css.RawRule

/-! ## One rule -/

/-- The rule without its places. -/
def unlocated (r : RawRule) : RawRule :=
  { r with start := .start, bodyStart := .start }

/-- What ends a rule with the keyword `k`. -/
def ends (k : Option String) : ComponentValue → Bool :=
  if k.isSome then isEnd else isBraces

/-- What the value holds if it is a block. -/
def body? : ComponentValue → Option (List ComponentValue)
  | .block _ body _ => some body
  | .token _ => none

/-- The values `lead`, which are the keyword `k` if there is one, `prelude` and `e` are a rule. -/
structure Spans (k : Option String) (lead prelude : List ComponentValue) (e : ComponentValue) :
    Prop where
  keyword : ∀ us, keyword? (lead ++ (prelude ++ e :: us)) = (k, prelude ++ e :: us)
  prelude : ∀ v ∈ prelude, ends k v = false
  closed : ends k e = true

/-- The rule that the values are, without its places. -/
def ofParts (k : Option String) (prelude : List ComponentValue) (e : ComponentValue) : RawRule :=
  ⟨k, prelude, body? e, .start, .start⟩

theorem first?_of_spans {k : Option String} {lead prelude : List ComponentValue}
    {e : ComponentValue} (h : Spans k lead prelude e) (start : Location)
    (us : List ComponentValue) :
    ∃ r, first? start (lead ++ (prelude ++ e :: us)) = some (r, us) ∧
      r.unlocated = ofParts k prelude e := by
  have hprelude : ∀ v ∈ prelude, (!ends k v) = true := by simpa using h.prelude
  have htake : (prelude ++ e :: us).takeWhile (!ends k ·) = prelude := by
    rw [List.takeWhile_append_of_pos hprelude, List.takeWhile_cons_of_neg (by simp [h.closed]),
      List.append_nil]
  have hdrop : (prelude ++ e :: us).dropWhile (!ends k ·) = e :: us := by
    rw [List.dropWhile_append_of_pos hprelude, List.dropWhile_cons_of_neg (by simp [h.closed])]
  unfold ends at htake hdrop
  rw [first?, h.keyword us]
  dsimp only
  rw [htake, hdrop]
  cases e with
  | token l => exact ⟨_, rfl, rfl⟩
  | block o body close => exact ⟨_, rfl, rfl⟩

/-- Values that start with no keyword are a rule without one from the first on. -/
theorem keyword?_cons_eq_none {v : ComponentValue} {us ws : List ComponentValue}
    (h : (keyword? (v :: us)).1 = none) : keyword? (v :: ws) = (none, v :: ws) := by
  cases v with
  | token l =>
    obtain ⟨t, text, complete⟩ := l
    cases t <;> first | rfl | cases h
  | block => rfl

/-- The first rule of values is read to what ends it. -/
theorem spans_of_first? {start : Location} {vs rest : List ComponentValue} {r : RawRule}
    (h : first? start vs = some (r, rest)) :
    ∃ k lead prelude e, vs = lead ++ (prelude ++ e :: rest) ∧ Spans k lead prelude e ∧
      r.unlocated = ofParts k prelude e := by
  obtain ⟨k, rest', hkeyword⟩ : ∃ k rest', keyword? vs = (k, rest') := ⟨_, _, rfl⟩
  have hends : (if k.isSome then isEnd else isBraces) = ends k := rfl
  rw [first?, hkeyword] at h
  dsimp only at h
  rw [hends] at h
  -- The same values, cut at what ends the rule.
  obtain ⟨e, hdrop, hr⟩ : ∃ e, rest'.dropWhile (!ends k ·) = e :: rest ∧
      r.unlocated = ofParts k (rest'.takeWhile (!ends k ·)) e := by
    split at h
    next hdrop =>
      cases h
      exact ⟨_, hdrop, rfl⟩
    next hdrop =>
      cases h
      exact ⟨_, hdrop, rfl⟩
    next => cases h
  have hrest : rest' = rest'.takeWhile (!ends k ·) ++ e :: rest := by
    rw [← hdrop, List.takeWhile_append_dropWhile]
  have hprelude : ∀ v ∈ rest'.takeWhile (!ends k ·), ends k v = false := fun v hv => by
    simpa using List.mem_takeWhile_imp hv
  have hclosed : ends k e = true := by
    have hhead := List.head?_dropWhile_not (!ends k ·) rest'
    rw [hdrop] at hhead
    simpa using hhead
  generalize rest'.takeWhile (!ends k ·) = prelude at hr hrest hprelude
  subst hrest
  unfold keyword? at hkeyword
  split at hkeyword
  next name text complete after =>
    obtain ⟨rfl, rfl⟩ := Prod.mk.inj hkeyword
    exact ⟨_, [.token ⟨.atKeyword name, text, complete⟩], prelude, e, rfl,
      ⟨fun _ => rfl, hprelude, hclosed⟩, hr⟩
  next hnone =>
    obtain ⟨rfl, rfl⟩ := Prod.mk.inj hkeyword
    refine ⟨none, [], prelude, e, rfl, ⟨fun us => ?_, hprelude, hclosed⟩, hr⟩
    cases prelude with
    | nil =>
      cases e with
      | token => cases hclosed
      | block => rfl
    | cons v prelude =>
      have hfirst : (keyword? (v :: (prelude ++ e :: rest))).1 = none := by
        unfold keyword?
        split
        next heq => exact absurd heq (hnone _ _ _ _)
        next => rfl
      exact keyword?_cons_eq_none hfirst

theorem none_or_spans (vs : List ComponentValue) :
    (∀ start, first? start vs = none) ∨
      ∃ k lead prelude e rest, vs = lead ++ (prelude ++ e :: rest) ∧ Spans k lead prelude e := by
  by_cases h : ∀ start, first? start vs = none
  · exact .inl h
  · obtain ⟨start, hstart⟩ := not_forall.mp h
    obtain ⟨⟨r, rest⟩, hfirst⟩ := Option.ne_none_iff_exists'.mp hstart
    obtain ⟨k, lead, prelude, e, hvs, hspans, -⟩ := spans_of_first? hfirst
    exact .inr ⟨k, lead, prelude, e, rest, hvs, hspans⟩

/-! ## Lists -/

section

variable {vs rest lead prelude : List ComponentValue} {k : Option String} {e : ComponentValue}

theorem list_of_none (h : ∀ start, first? start (vs.dropWhile isGap) = none) (start : Location) :
    list start vs = [] := by
  rw [list]
  split
  next hfirst =>
    rw [h] at hfirst
    cases hfirst
  next => rfl

theorem list_of_spans (hvs : vs.dropWhile isGap = lead ++ (prelude ++ e :: rest))
    (h : Spans k lead prelude e) (start : Location) :
    ∃ r start', list start vs = r :: list start' rest ∧ r.unlocated = ofParts k prelude e := by
  obtain ⟨r, hfirst, hr⟩ := first?_of_spans h (start.advance (textOf (vs.takeWhile isGap))) rest
  rw [← hvs] at hfirst
  rw [list]
  split
  next hfound =>
    rw [hfirst] at hfound
    cases hfound
    exact ⟨r, _, rfl, hr⟩
  next hnone =>
    rw [hfirst] at hnone
    cases hnone

/-- A list holds no rule, or one and then a shorter list. -/
@[elab_as_elim]
theorem list_induction {motive : List ComponentValue → Prop}
    (none : ∀ vs, (∀ start, first? start (vs.dropWhile isGap) = none) → motive vs)
    (rule : ∀ vs k lead prelude e rest, vs.dropWhile isGap = lead ++ (prelude ++ e :: rest) →
      Spans k lead prelude e → motive rest → motive vs)
    (vs : List ComponentValue) : motive vs := by
  induction hn : vs.length using Nat.strong_induction_on generalizing vs with
  | h n ih =>
    rcases none_or_spans (vs.dropWhile isGap) with hnone | ⟨k, lead, prelude, e, rest, hvs, h⟩
    · exact none vs hnone
    · have hlength := length_dropWhile_le isGap vs
      rw [hvs, List.length_append, List.length_append, List.length_cons] at hlength
      exact rule vs k lead prelude e rest hvs h (ih rest.length (by omega) rest rfl)

/-- The rules of a list without their places. -/
def rules (vs : List ComponentValue) : List RawRule :=
  (list .start vs).map unlocated

/-- Where a list starts only shows in the places. -/
theorem map_unlocated_list (start : Location) (vs : List ComponentValue) :
    (list start vs).map unlocated = rules vs := by
  rw [rules]
  generalize Location.start = start'
  induction vs using list_induction generalizing start start' with
  | none vs hnone => rw [list_of_none hnone, list_of_none hnone]
  | rule vs k lead prelude e rest hvs h ih =>
    obtain ⟨r, behind, hlist, hr⟩ := list_of_spans hvs h start
    obtain ⟨r', behind', hlist', hr'⟩ := list_of_spans hvs h start'
    rw [hlist, hlist', List.map_cons, List.map_cons, hr, hr', ih behind behind']

theorem rules_of_none (h : ∀ start, first? start (vs.dropWhile isGap) = none) : rules vs = [] := by
  rw [rules, list_of_none h, List.map_nil]

theorem rules_of_spans (hvs : vs.dropWhile isGap = lead ++ (prelude ++ e :: rest))
    (h : Spans k lead prelude e) : rules vs = ofParts k prelude e :: rules rest := by
  obtain ⟨r, start, hlist, hr⟩ := list_of_spans hvs h .start
  rw [rules, hlist, List.map_cons, hr, map_unlocated_list]

/-- Gaps before the first rule are nothing. -/
theorem rules_of_gaps {gaps : List ComponentValue} (hgaps : ∀ v ∈ gaps, isGap v = true)
    (vs : List ComponentValue) : rules (gaps ++ vs) = rules vs := by
  have hdrop : (gaps ++ vs).dropWhile isGap = vs.dropWhile isGap :=
    List.dropWhile_append_of_pos hgaps
  rcases none_or_spans (vs.dropWhile isGap) with hnone | ⟨k, lead, prelude, e, rest, hvs, h⟩
  · rw [rules_of_none hnone, rules_of_none (hdrop ▸ hnone)]
  · rw [rules_of_spans hvs h, rules_of_spans (hdrop.trans hvs) h]

theorem rules_nil : rules [] = [] :=
  rules_of_none fun _ => rfl

/-- What a rule holds in braces is what a block among the values holds. -/
theorem exists_block_of_mem_rules {r : RawRule} {body : List ComponentValue} (hr : r ∈ rules vs)
    (hbody : r.body = some body) : ∃ o close, .block o body close ∈ vs := by
  induction vs using list_induction with
  | none vs hnone =>
    rw [rules_of_none hnone] at hr
    cases hr
  | rule vs k lead prelude e rest hvs h ih =>
    have hsub : e :: rest ⊆ vs := fun v hv =>
      (List.dropWhile_sublist isGap).subset (hvs ▸ by simp [List.mem_cons.mp hv])
    rw [rules_of_spans hvs h] at hr
    rcases List.mem_cons.mp hr with rfl | hr
    · cases e with
      | token => cases hbody
      | block o inner close =>
        obtain rfl := Option.some.inj hbody
        exact ⟨o, close, hsub List.mem_cons_self⟩
    · obtain ⟨o, close, hblock⟩ := ih hr
      exact ⟨o, close, hsub (List.mem_cons_of_mem e hblock)⟩

end

/-- The last rule of the list is closed: nothing but gaps follows what ends it. -/
def isEnded (vs : List ComponentValue) : Bool :=
  match _h : first? .start (vs.dropWhile isGap) with
  | some (_, rest) => isEnded rest
  | none => vs.all isGap
termination_by vs.length
decreasing_by
  exact Nat.lt_of_lt_of_le (length_first?_lt _h) (length_dropWhile_le isGap vs)

theorem isEnded_of_none {vs : List ComponentValue}
    (h : ∀ start, first? start (vs.dropWhile isGap) = none) : isEnded vs = vs.all isGap := by
  rw [isEnded]
  split
  next hfirst =>
    rw [h] at hfirst
    cases hfirst
  next => rfl

theorem isEnded_of_spans {vs lead prelude rest : List ComponentValue} {k : Option String}
    {e : ComponentValue} (hvs : vs.dropWhile isGap = lead ++ (prelude ++ e :: rest))
    (h : Spans k lead prelude e) : isEnded vs = isEnded rest := by
  obtain ⟨r, hfirst, -⟩ := first?_of_spans h .start rest
  rw [← hvs] at hfirst
  rw [isEnded]
  split
  next hfound =>
    rw [hfirst] at hfound
    cases hfound
    rfl
  next hnone =>
    rw [hfirst] at hnone
    cases hnone

theorem isEnd_of_ends {k : Option String} {e : ComponentValue} (h : ends k e = true) :
    isEnd e = true := by
  unfold ends at h
  split at h
  · exact h
  · rw [isEnd, h, Bool.true_or]

/-- A rule does not start in a gap, whatever comes behind it. -/
theorem dropWhile_isGap_rule {vs rest lead prelude : List ComponentValue} {e : ComponentValue}
    (hvs : vs.dropWhile isGap = lead ++ (prelude ++ e :: rest)) (us : List ComponentValue) :
    (lead ++ (prelude ++ e :: us)).dropWhile isGap = lead ++ (prelude ++ e :: us) := by
  have hcons (ws : List ComponentValue) :
      lead ++ (prelude ++ e :: ws) = lead ++ (prelude ++ [e]) ++ ws := by simp
  rw [hcons] at hvs ⊢
  have hhead := List.head?_dropWhile_not isGap vs
  rw [hvs] at hhead
  cases hrule : lead ++ (prelude ++ [e]) with
  | nil => simp at hrule
  | cons v rule =>
    rw [hrule] at hhead
    exact List.dropWhile_cons_of_neg (by simpa using hhead)

/-- A list whose last rule is closed, before another one. -/
theorem exists_append_of_isEnded {vs : List ComponentValue} (h : isEnded vs = true) :
    ∃ used gaps, vs = used ++ gaps ∧ (∀ v ∈ gaps, isGap v = true) ∧
      (∀ v, used.getLast? = some v → isEnd v = true) ∧
      ∀ us, rules (used ++ us) = rules vs ++ rules us := by
  induction vs using list_induction with
  | none vs hnone =>
    rw [isEnded_of_none hnone, List.all_eq_true] at h
    refine ⟨[], vs, rfl, h, nofun, fun us => ?_⟩
    rw [rules_of_none hnone, List.nil_append, List.nil_append]
  | rule vs k lead prelude e rest hvs hspans ih =>
    rw [isEnded_of_spans hvs hspans] at h
    obtain ⟨used, gaps, rfl, hgaps, hlast, hused⟩ := ih h
    have hsplit : vs = vs.takeWhile isGap ++ (lead ++ (prelude ++ e :: (used ++ gaps))) := by
      rw [← hvs, List.takeWhile_append_dropWhile]
    have hbefore : ∀ v ∈ vs.takeWhile isGap, isGap v = true := fun v hv =>
      List.mem_takeWhile_imp hv
    refine ⟨vs.takeWhile isGap ++ (lead ++ (prelude ++ e :: used)), gaps, ?_, hgaps,
      fun v hv => ?_, fun us => ?_⟩
    · conv_lhs => rw [hsplit]
      simp
    · cases hused : used.getLast? with
      | none =>
        obtain rfl := List.getLast?_eq_none_iff.mp hused
        obtain rfl : e = v := by simpa using hv
        exact isEnd_of_ends hspans.closed
      | some u =>
        obtain rfl : u = v := by simpa [List.getLast?_append, List.getLast?_cons, hused] using hv
        exact hlast u hused
    · have hrule := dropWhile_isGap_rule hvs (used ++ us)
      have hall : vs.takeWhile isGap ++ (lead ++ (prelude ++ e :: used)) ++ us =
          vs.takeWhile isGap ++ (lead ++ (prelude ++ e :: (used ++ us))) := by simp
      rw [hall, rules_of_gaps hbefore, rules_of_spans hrule hspans, hused,
        rules_of_spans hvs hspans, List.cons_append]

/-! ## Texts -/

/-- Gaps at the end of a text are gaps as well before another text, but white space there may go on
into it. -/
theorem lexemes_of_gaps {a : List Char}
    (ha : ∀ l ∈ lexemes a, l.token.isGap = true ∧ l.complete = true) (b : List Char) :
    ∃ ls b', (∀ l ∈ ls, l.token.isGap = true) ∧ lexemes (a ++ b) = ls ++ lexemes b' ∧
      (b' = b ∨ b' = b.dropWhile isSpace) := by
  fun_induction lexemes a with
  | case1 => exact ⟨[], b, List.forall_mem_nil _, rfl, .inl rfl⟩
  | case2 c r t ih =>
    have ha : ∀ l ∈ Lexeme.ofReading c r t :: lexemes t.rest,
        l.token.isGap = true ∧ l.complete = true := ha
    obtain ⟨hgap, hc⟩ := ha _ List.mem_cons_self
    have hgap : (token c r).value.isGap = true := hgap
    obtain ⟨ls, b', hls, hlexemes, hb'⟩ := ih fun l hl => ha l (List.mem_cons_of_mem _ hl)
    have hlexemes : lexemes ((token c r).rest ++ b) = ls ++ lexemes b' := hlexemes
    rw [List.cons_append, lexemes_cons]
    have hfirst {l : Lexeme} (hl : l.token.isGap = true) {ls : List Lexeme}
        (hls : ∀ l ∈ ls, l.token.isGap = true) : ∀ l' ∈ l :: ls, l'.token.isGap = true := by
      simpa [hl] using hls
    by_cases hspace : isSpace c = true
    · have htoken (w : List Char) : token c w = ⟨.whitespace, true, w.dropWhile isSpace⟩ := by
        rw [token, if_pos hspace]
      rw [htoken] at hlexemes
      rw [htoken, List.dropWhile_append]
      dsimp only at hlexemes ⊢
      split
      · exact ⟨[_], _, hfirst rfl (List.forall_mem_nil _), rfl, .inr rfl⟩
      · exact ⟨_ :: ls, b', hfirst rfl hls, congrArg _ hlexemes, hb'⟩
    · have hspace : isSpace c = false := by simpa using hspace
      rw [token_append_of_isGap hgap hspace hc b]
      exact ⟨_ :: ls, b', hfirst hgap hls, congrArg _ hlexemes, hb'⟩

theorem rules_nest_gaps {ls : List Lexeme} (hls : ∀ l ∈ ls, l.token.isGap = true)
    (ms : List Lexeme) : rules (nest (ls ++ ms)) = rules (nest ms) := by
  induction ls with
  | nil => rfl
  | cons l ls ih =>
    have hgap := hls l List.mem_cons_self
    have hopens : l.token.closer? = none := by
      cases htoken : l.token <;> rw [htoken] at hgap <;> first | rfl | cases hgap
    have hvalue : ∀ v ∈ [ComponentValue.token l], isGap v = true := by
      rintro v hv
      obtain rfl := List.mem_singleton.mp hv
      exact hgap
    rw [List.cons_append, nest_cons_plain hopens, ← List.singleton_append, rules_of_gaps hvalue]
    exact ih fun l hl => hls l (List.mem_cons_of_mem _ hl)

/-- A text of gaps adds no rule to the text behind it. -/
theorem rules_gaps_append {a : List Char}
    (ha : ∀ l ∈ lexemes a, l.token.isGap = true ∧ l.complete = true) (b : List Char) :
    rules (nest (lexemes (a ++ b))) = rules (nest (lexemes b)) := by
  obtain ⟨ls, b', hls, hlexemes, hb'⟩ := lexemes_of_gaps ha b
  rw [hlexemes, rules_nest_gaps hls]
  rcases hb' with rfl | rfl
  · rfl
  · obtain ⟨blanks, hblanks, hb⟩ := lexemes_dropWhile_isSpace b
    rw [hb, rules_nest_gaps]
    intro l hl
    rw [hblanks l hl]
    rfl

/-- A closed value that ends a rule ends in a semicolon or in a brace. -/
theorem flat_of_isEnd {e : ComponentValue} (he : isEnd e = true) (hclosed : e.IsClosed none) :
    ∃ ls l x, e.flat = ls ++ [l] ∧ l.token.stop? = some x ∧ x ≠ '!' := by
  cases e with
  | token l =>
    have hl : l.token = .semicolon := beq_iff_eq.mp he
    exact ⟨[], l, ';', rfl, by rw [hl]; rfl, by decide⟩
  | block o body close =>
    obtain ⟨c, rfl, hclose, -⟩ := hclosed
    have ho : o.token = .curlyOpen := by simpa [isEnd, isBraces, ComponentValue.isToken] using he
    have hc : c.token = .curlyClose := by
      rw [ho] at hclose
      exact (Option.some.inj hclose).symm
    exact ⟨o :: flatten body, c, '\x7d', rfl, by rw [hc]; rfl, by decide⟩

theorem isGap_of_mem_flatten {gaps : List ComponentValue} (h : ∀ v ∈ gaps, isGap v = true) :
    ∀ l ∈ flatten gaps, l.token.isGap = true := by
  induction gaps with
  | nil => exact nofun
  | cons v gaps ih =>
    obtain ⟨hv, hgaps⟩ := List.forall_mem_cons.mp h
    cases v with
    | token l => exact List.forall_mem_cons.mpr ⟨hv, ih hgaps⟩
    | block => cases hv

/-- What stands behind the end of a rule does not change how the rule is read. -/
theorem lexemes_append_of_isEnd {s : List Char} {used : List ComponentValue} {ms : List Lexeme}
    (hs : lexemes s = flatten used ++ ms) (hclosed : AllClosed none used)
    (hlast : ∀ v, used.getLast? = some v → isEnd v = true) (b : List Char) :
    lexemes ((flatten used).flatMap Lexeme.text ++ b) = flatten used ++ lexemes b := by
  cases hused : used.getLast? with
  | none =>
    obtain rfl := List.getLast?_eq_none_iff.mp hused
    rfl
  | some e =>
    obtain ⟨us, rfl⟩ := List.getLast?_eq_some_iff.mp hused
    have he : e.IsClosed none := allClosed_iff.mp hclosed e (by simp)
    obtain ⟨ls, l, x, hflat, hstop, hx⟩ := flat_of_isEnd (hlast e hused) he
    have hall : flatten (us ++ [e]) = flatten us ++ ls ++ [l] := by
      rw [flatten_append, flatten, flatten, hflat, List.append_nil, List.append_assoc]
    rw [hall, List.append_assoc _ [l], List.singleton_append] at hs
    have hends := endsTokens_cons (isStop_of_stop? hstop) hx
    obtain ⟨hls, hwhole, hl⟩ := lexemes_of_stop? hs hstop (hends _)
    have hlexeme : l.text = [x] := congrArg Lexeme.text hl
    have hafter : lexemes (x :: b) = l :: lexemes b := by
      rw [lexemes_cons_stop hstop, ← hl]
    rw [hall, List.flatMap_append, List.append_assoc, List.flatMap_singleton, hlexeme,
      List.singleton_append, lexemes_append hwhole (hends b) (isStop_of_stop? hstop), hls, hafter]
    simp

/-- The rules of two texts, one after the other, if the last rule of the first is closed. -/
theorem rules_values_append {a : String} (ha : IsClosed a) (hended : isEnded (values a) = true)
    (b : String) : rules (values (a ++ b)) = rules (values a) ++ rules (values b) := by
  obtain ⟨used, gaps, hvalues, hgaps, hlast, hused⟩ := exists_append_of_isEnded hended
  have hclosed : AllClosed none used := by
    have hall := allClosed_iff.mp (allClosed_nest ha.blocks)
    rw [show nest (lexemes a.toList) = used ++ gaps from hvalues] at hall
    exact allClosed_iff.mpr fun v hv => hall v (List.mem_append_left _ hv)
  have hlexemes : lexemes a.toList = flatten used ++ flatten gaps := by
    rw [← flatten_values, hvalues, flatten_append]
  have htext : a.toList = (flatten used).flatMap Lexeme.text ++
      (flatten gaps).flatMap Lexeme.text := by
    rw [← List.flatMap_append, ← hlexemes, flatMap_text_lexemes]
  have happend : lexemes (a ++ b).toList =
      flatten used ++ lexemes ((flatten gaps).flatMap Lexeme.text ++ b.toList) := by
    rw [String.toList_append, htext, List.append_assoc,
      lexemes_append_of_isEnd hlexemes hclosed hlast]
  -- What stands behind the last rule are gaps, before the end as before another text.
  have hbehind : ∀ l ∈ lexemes ((flatten gaps).flatMap Lexeme.text),
      l.token.isGap = true ∧ l.complete = true := by
    rw [lexemes_of_suffix hlexemes]
    exact fun l hl => ⟨isGap_of_mem_flatten hgaps l hl,
      ha.whole l (hlexemes ▸ List.mem_append_right _ hl)⟩
  rw [values, happend, nest_append (areClosed_flatten hclosed), nest_flatten hclosed, hused,
    rules_gaps_append hbehind]
  rfl

end StyleTree.Css.RawRule
