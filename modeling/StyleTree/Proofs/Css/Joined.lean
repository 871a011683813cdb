import StyleTree.Proofs.Css.Continued

/-!
# Texts put together

The lexemes of two texts, one behind the other. If the first one ends outside every string, comment,
URL and escape, and no token goes on with the second one, then they are the lexemes of the one and
of the other; at most, white space between them goes to the last token of the first one. And where
the lexemes of a text part, they are those of its parts. Main statements: `lexemes_append`,
`tokens_append`, `lexemes_of_append`.
-/

namespace StyleTree.Css

variable {s : List Char}

/-! ## Numbers -/

theorem isDigit_of_stopsName {c : Char} {r : List Char} (h : stopsName (c :: r) = true) :
    Ascii.isDigit c = false := by
  simp only [stopsName, isNameChar, Bool.and_eq_true, Bool.not_eq_true', Bool.or_eq_false_iff] at h
  exact h.1.1.2

theorem digits_append (hs : endsTokens s = true) (r : List Char) :
    (r ++ s).takeWhile Ascii.isDigit = r.takeWhile Ascii.isDigit ∧
      (r ++ s).dropWhile Ascii.isDigit = r.dropWhile Ascii.isDigit ++ s := by
  have hs : s.takeWhile Ascii.isDigit = [] ∧ s.dropWhile Ascii.isDigit = s := by
    cases s with
    | nil => exact ⟨rfl, rfl⟩
    | cons c s =>
      have hc := isDigit_of_stopsName (stopsName_of_endsTokens hs)
      exact ⟨List.takeWhile_cons_of_neg (by simp [hc]), List.dropWhile_cons_of_neg (by simp [hc])⟩
  induction r with
  | nil => exact hs
  | cons c r ih =>
    rw [List.cons_append, List.takeWhile_cons, List.dropWhile_cons, List.takeWhile_cons,
      List.dropWhile_cons]
    split
    · exact ⟨congrArg _ ih.1, ih.2⟩
    · exact ⟨rfl, rfl⟩

theorem startsDigit_append (hs : endsTokens s = true) (r : List Char) :
    startsDigit (r ++ s) = startsDigit r := by
  cases r with
  | nil =>
    cases s with
    | nil => rfl
    | cons c s => exact isDigit_of_stopsName (stopsName_of_endsTokens hs)
  | cons c r => rfl

theorem sign_append (hs : endsTokens s = true) (r : List Char) :
    sign (r ++ s) = ((sign r).1, (sign r).2 ++ s) := by
  cases r with
  | nil =>
    rw [List.nil_append]
    unfold sign
    split
    next t => exact absurd rfl (ne_of_endsTokens hs (x := '+') rfl rfl)
    next t => exact absurd rfl (ne_of_endsTokens hs (x := '-') rfl rfl)
    next => rfl
  | cons c r =>
    by_cases hplus : c = '+'
    · subst hplus
      rfl
    by_cases hminus : c = '-'
    · subst hminus
      rfl
    simp [sign, hplus, hminus]

theorem fraction_append (hs : endsTokens s = true) (r : List Char) :
    fraction (r ++ s) = ((fraction r).1, (fraction r).2 ++ s) := by
  cases r with
  | nil =>
    rw [List.nil_append]
    unfold fraction
    split
    next t => exact absurd rfl (ne_of_endsTokens hs (x := '.') rfl rfl)
    next => rfl
  | cons c r =>
    by_cases hpoint : c = '.'
    · subst hpoint
      have hdigits := digits_append hs r
      rw [List.cons_append, fraction, fraction, startsDigit_append hs, hdigits.1, hdigits.2]
      split <;> rfl
    · simp [fraction, hpoint]

theorem exponent_append (hs : endsTokens s = true) (r : List Char) :
    exponent (r ++ s) = ((exponent r).1, (exponent r).2 ++ s) := by
  cases r with
  | nil =>
    cases s with
    | nil => rfl
    | cons c s =>
      have he := ne_of_endsTokens hs (x := 'e') rfl rfl
      have hE := ne_of_endsTokens hs (x := 'E') rfl rfl
      simp only [List.head?_cons, ne_eq, Option.some.injEq] at he hE
      simp [exponent, he, hE]
  | cons c r =>
    have hdigits := digits_append hs (sign r).2
    simp only [List.cons_append, exponent, sign_append hs, startsDigit_append hs, hdigits]
    split
    · split <;> rfl
    · rfl

theorem numeral_append (hs : endsTokens s = true) (r : List Char) :
    numeral (r ++ s) = ((numeral r).1, (numeral r).2 ++ s) := by
  have hdigits := digits_append hs (sign r).2
  simp only [numeral, sign_append hs, hdigits.1, hdigits.2, fraction_append hs, exponent_append hs]

theorem startsNumber_append (hs : endsTokens s = true) (r : List Char) :
    startsNumber (r ++ s) = startsNumber r := by
  unfold startsNumber
  rw [sign_append hs]
  cases h : (sign r).2 with
  | nil =>
    have hdigit := startsDigit_append hs []
    rw [List.nil_append] at hdigit
    dsimp only
    rw [List.nil_append]
    split
    next t => exact absurd rfl (ne_of_endsTokens hs (x := '.') rfl rfl)
    next => exact hdigit
  | cons c t =>
    by_cases hpoint : c = '.'
    · subst hpoint
      exact startsDigit_append hs t
    · simp [hpoint, startsDigit]

/-! ## Tokens -/

/-- Only a backslash at the end of the text may start an identifier or not, by what comes behind. -/
theorem startsIdent_append (hs : endsTokens s = true) {r : List Char}
    (hr : r = ['\\'] → startsNewline s = false) : startsIdent (r ++ s) = startsIdent r := by
  have hname := stopsName_of_endsTokens hs
  have hstart : ∀ c t, s = c :: t →
      isNameStart c = false ∧ c ≠ '-' ∧ c ≠ '\\' := by
    rintro c t rfl
    simp only [stopsName, isNameChar, Bool.and_eq_true, Bool.not_eq_true', Bool.or_eq_false_iff,
      beq_eq_false_iff_ne, bne_iff_ne] at hname
    exact ⟨hname.1.1.1, hname.1.2, hname.2⟩
  cases r with
  | nil =>
    cases s with
    | nil => rfl
    | cons c t =>
      obtain ⟨hc, hhyphen, hback⟩ := hstart c t rfl
      simp [startsIdent, hc, hhyphen]
  | cons c r =>
    cases r with
    | nil =>
      by_cases hhyphen : c = '-'
      · subst hhyphen
        cases s with
        | nil => rfl
        | cons d t =>
          obtain ⟨hd, hhyphen, hback⟩ := hstart d t rfl
          have hlone : isNameStart '-' = false := rfl
          simp [startsIdent, hd, hhyphen, hback, hlone]
      · by_cases hback : c = '\\'
        · subst hback
          show (!startsNewline s) = true
          rw [hr rfl]
          rfl
        · simp [startsIdent, hhyphen]
    | cons d t =>
      by_cases hhyphen : c = '-'
      · subst hhyphen
        rfl
      · by_cases hback : c = '\\'
        · subst hback
          rfl
        · simp [startsIdent, hhyphen]

/-- A name that is cut off ends with the text. -/
theorem name_rest_of_cut {r : List Char} (h : (name r).complete = false) : (name r).rest = [] := by
  fun_induction name r with
  | case1 => cases h
  | case2 r hr => cases h
  | case3 r hr e more ih =>
    simp only [Bool.and_eq_false_iff, Bool.not_eq_false', List.isEmpty_iff] at h
    rcases h with h | rfl
    · exact ih h
    · show (name []).rest = []
      rw [name]
  | case4 c r hback hc more ih => exact ih h
  | case5 => cases h

/-- The reading of a lone backslash. -/
theorem name_backslash : name ['\\'] = ⟨['\ufffd'], false, []⟩ := by
  rw [name, if_pos rfl, if_neg (by decide)]
  simp [escape, name]

theorem numericToken_of_ne {r : List Char} (h : (numeral r).2.head? ≠ some '%') :
    numericToken r =
      if startsIdent (numeral r).2 then
        ⟨.dimension (numeral r).1 (text (name (numeral r).2).value), (name (numeral r).2).complete,
          (name (numeral r).2).rest⟩
      else ⟨.number (numeral r).1, true, (numeral r).2⟩ := by
  unfold numericToken
  dsimp only
  split
  next ht => simp [ht] at h
  next => rfl

theorem numericToken_extends (hs : endsTokens s = true) (r : List Char) :
    (numericToken r).Extends (numericToken (r ++ s)) s := by
  have hnumeral := numeral_append hs r
  by_cases hpercent : ∃ t, (numeral r).2 = '%' :: t
  · obtain ⟨t, ht⟩ := hpercent
    unfold numericToken
    rw [hnumeral]
    dsimp only
    rw [ht]
    exact .of_stopped
  · have hpart : (numeral r).2.head? ≠ some '%' := by
      intro h
      obtain ⟨t, ht⟩ := List.head?_eq_some_iff.mp h
      exact hpercent ⟨t, ht⟩
    have hwhole : (numeral (r ++ s)).2.head? ≠ some '%' := by
      rw [hnumeral]
      cases ht : (numeral r).2 with
      | nil => exact ne_of_endsTokens hs rfl rfl
      | cons c t => rwa [ht] at hpart
    rw [numericToken_of_ne hpart, numericToken_of_ne hwhole, hnumeral]
    dsimp only
    generalize (numeral r).1 = value
    generalize (numeral r).2 = t
    by_cases hback : t = ['\\'] ∧ startsNewline s = true
    · obtain ⟨rfl, hnewline⟩ := hback
      refine .of_cut ?_ fun hstop => ?_
      · rw [if_pos (by decide), name_backslash]
      · rw [startsNewline_of_startsStop hstop] at hnewline
        cases hnewline
    · rw [startsIdent_append hs (by simpa using hback)]
      split
      · exact (name_extends hs t).map fun unit => Token.dimension value (text unit)
      · exact .of_stopped

/-- The token that a name begins, by what stands behind it. -/
theorem identToken_of_ne {r : List Char} (h : (name r).rest.head? ≠ some '(') :
    identToken r = ⟨.ident (text (name r).value), (name r).complete, (name r).rest⟩ := by
  unfold identToken
  dsimp only
  split
  next ht => simp [ht] at h
  next => rfl

/-- What a name and a parenthesis begin. -/
def callToken (n : List Char) (r : List Char) : Reading Token :=
  if n.map Char.toLower == ['u', 'r', 'l'] then
    match r.dropWhile isSpace with
    | '"' :: _ | '\'' :: _ => ⟨.function (text n), true, r⟩
    | t =>
      let url := urlRest [] t
      ⟨url.value.elim .badUrl fun v => .url (text v), url.complete, url.rest⟩
  else ⟨.function (text n), true, r⟩

theorem identToken_of_eq {r t : List Char} (h : (name r).rest = '(' :: t) :
    identToken r = callToken (name r).value t := by
  unfold identToken callToken
  dsimp only
  rw [h]
  rfl

theorem callToken_extends (hs : endsTokens s = true) (n r : List Char) :
    (callToken n r).Extends (callToken n (r ++ s)) s := by
  unfold callToken
  split
  · by_cases hr : ∀ c ∈ r, isSpace c = true
    · rw [List.dropWhile_eq_nil_iff.mpr hr, List.dropWhile_append_of_pos hr]
      refine .of_cut (by simp [urlRest]) fun hstop => ?_
      obtain ⟨c, t, rfl⟩ := List.exists_cons_of_ne_nil (ne_nil_of_startsStop hstop)
      have hc : isStop c = true := hstop
      rw [List.dropWhile_cons_of_neg (by simp [isSpace_of_isStop hc])]
      split
      next h =>
        obtain ⟨rfl, -⟩ := List.cons.inj h
        cases hc
      next h =>
        obtain ⟨rfl, -⟩ := List.cons.inj h
        cases hc
      next => exact length_urlRest_lt [] (List.cons_ne_nil _ _)
    · have hne : r.dropWhile isSpace ≠ [] := fun h => hr (List.dropWhile_eq_nil_iff.mp h)
      obtain ⟨c, t, ht⟩ := List.exists_cons_of_ne_nil hne
      have hdrop : (r ++ s).dropWhile isSpace = c :: (t ++ s) := by
        rw [List.dropWhile_append, ht]
        rfl
      rw [ht, hdrop]
      split
      next h =>
        obtain ⟨rfl, -⟩ := List.cons.inj h
        exact .of_stopped
      next h =>
        obtain ⟨rfl, -⟩ := List.cons.inj h
        exact .of_stopped
      next hdouble hsingle =>
        split
        next h =>
          obtain ⟨rfl, -⟩ := List.cons.inj h
          exact absurd rfl (hdouble t)
        next h =>
          obtain ⟨rfl, -⟩ := List.cons.inj h
          exact absurd rfl (hsingle t)
        next => exact (urlRest_extends hs [] (c :: t)).map fun v =>
            v.elim Token.badUrl fun v => Token.url (text v)
  · exact .of_stopped

/-- What a name begins takes in at least the name. -/
theorem length_identToken_le (r : List Char) :
    (identToken r).rest.length ≤ (name r).rest.length := by
  by_cases hparen : ∃ t, (name r).rest = '(' :: t
  · obtain ⟨t, ht⟩ := hparen
    have hsuffix : (callToken (name r).value t).rest <:+ t := by
      unfold callToken
      split
      · split
        · exact List.suffix_refl _
        · exact List.suffix_refl _
        · exact (urlRest_suffix _ _).trans (List.dropWhile_suffix _)
      · exact List.suffix_refl _
    rw [identToken_of_eq ht, ht]
    exact Nat.le_succ_of_le hsuffix.length_le
  · rw [identToken_of_ne]
    intro h
    obtain ⟨t, ht⟩ := List.head?_eq_some_iff.mp h
    exact hparen ⟨t, ht⟩

theorem identToken_extends (hs : endsTokens s = true) (r : List Char) :
    (identToken r).Extends (identToken (r ++ s)) s := by
  have hname := name_extends hs r
  by_cases hparen : ∃ t, (name r).rest = '(' :: t
  · obtain ⟨t, ht⟩ := hparen
    have hcomplete : (name r).complete = true := by
      cases h : (name r).complete with
      | true => rfl
      | false => rw [name_rest_of_cut h] at ht; cases ht
    have hwhole : (name (r ++ s)).rest = '(' :: (t ++ s) := by
      rcases hname.leaves hcomplete with h | ⟨h, -⟩
      · rw [h, ht, List.cons_append]
      · rw [ht] at h
        cases h
    rw [identToken_of_eq ht, identToken_of_eq hwhole, hname.value hcomplete]
    exact callToken_extends hs _ t
  · have hpart : (name r).rest.head? ≠ some '(' := by
      intro h
      obtain ⟨t, ht⟩ := List.head?_eq_some_iff.mp h
      exact hparen ⟨t, ht⟩
    rw [identToken_of_ne hpart]
    cases hcomplete : (name r).complete with
    | false =>
      refine .of_cut rfl fun hstop => ?_
      exact Nat.lt_of_le_of_lt (length_identToken_le _) (hname.runsOn hcomplete hstop)
    | true =>
      have hwhole : (name (r ++ s)).rest.head? ≠ some '(' := by
        rcases hname.leaves hcomplete with h | ⟨h, hspace⟩
        · rw [h]
          cases ht : (name r).rest with
          | nil => exact ne_of_endsTokens hs rfl rfl
          | cons c t => rwa [ht] at hpart
        · exact ne_of_endsTokens (Leaves.endsTokens (.inr ⟨rfl, hspace⟩) hs) rfl rfl
      rw [identToken_of_ne hwhole, ← hcomplete]
      exact hname.map fun n => Token.ident (text n)

theorem hashToken_extends (hs : endsTokens s = true) (r : List Char) :
    (hashToken r).Extends (hashToken (r ++ s)) s := by
  have hname := name_extends hs r
  have hhead : (r ++ s).head? == some '-' ↔ r.head? == some '-' := by
    cases r with
    | nil => simpa using ne_of_endsTokens hs (x := '-') rfl rfl
    | cons c r => rfl
  unfold hashToken
  dsimp only
  by_cases hback : r = ['\\'] ∧ startsNewline s = true
  · obtain ⟨rfl, hnewline⟩ := hback
    refine .of_cut ?_ fun hstop => ?_
    · rw [if_pos (by decide), name_backslash]
    · rw [startsNewline_of_startsStop hstop] at hnewline
      cases hnewline
  · rw [startsIdent_append hs (by simpa using hback), startsDigit_append hs,
      Bool.eq_iff_iff.mpr hhead]
    split
    · exact hname.map fun n => Token.idHash (text n)
    · split
      · exact hname.map fun n => Token.hash (text n)
      · exact .of_stopped

theorem punctuation_extends (hs : endsTokens s = true) (c : Char) (r : List Char) :
    (punctuation c r).Extends (punctuation c (r ++ s)) s := by
  fun_cases punctuation c r with
  | case17 t => exact (commentRest_extends hs t).map fun _ => Token.comment
  | case18 =>
    rename_i hdollar hstar hcaret hbar htilde hopening hclosing hcomment
    -- No second character of the token stands behind the text.
    have hequals : ∀ t, r ++ s = '=' :: t → ∃ r', r = '=' :: r' :=
      fun t ht => (cons_of_append_eq hs rfl rfl ht).imp fun _ h => h.1
    rw [punctuation]
    · exact .of_stopped
    any_goals assumption
    · intro t hc ht
      exact (hequals t ht).elim fun r' hr => hdollar r' hc hr
    · intro t hc ht
      exact (hequals t ht).elim fun r' hr => hstar r' hc hr
    · intro t hc ht
      exact (hequals t ht).elim fun r' hr => hcaret r' hc hr
    · intro t hc ht
      exact (hequals t ht).elim fun r' hr => hbar r' hc hr
    · intro t hc ht
      exact (hequals t ht).elim fun r' hr => htilde r' hc hr
    · intro t hc ht
      cases r with
      | nil =>
        obtain rfl : s = _ := ht
        cases hs
      | cons d r =>
        obtain ⟨rfl, ht₀⟩ := List.cons.inj ht
        obtain ⟨r₁, rfl, ht₁⟩ := cons_of_append_eq hs rfl rfl ht₀
        obtain ⟨r₂, rfl, -⟩ := cons_of_append_eq hs rfl rfl ht₁
        exact hopening r₂ hc rfl
    · intro t hc ht
      obtain ⟨r₁, rfl, ht₁⟩ := cons_of_append_eq hs rfl rfl ht
      obtain ⟨r₂, rfl, -⟩ := cons_of_append_eq hs rfl rfl ht₁
      exact hclosing r₂ hc rfl
    · intro t hc ht
      obtain ⟨r', hr, -⟩ := cons_of_append_eq hs rfl rfl ht
      exact hcomment r' hc hr
  | _ => exact .of_stopped

/-- White space is read to its end, which may be behind the text. -/
theorem leaves_dropWhile_isSpace (r : List Char) :
    Leaves (r.dropWhile isSpace) s ((r ++ s).dropWhile isSpace) := by
  by_cases hr : ∀ c ∈ r, isSpace c = true
  · rw [List.dropWhile_eq_nil_iff.mpr hr, List.dropWhile_append_of_pos hr]
    refine .inr ⟨rfl, s.takeWhile isSpace, ?_, List.takeWhile_append_dropWhile.symm⟩
    exact fun c hc => List.mem_takeWhile_imp hc
  · have hne : r.dropWhile isSpace ≠ [] := fun h => hr (List.dropWhile_eq_nil_iff.mp h)
    left
    rw [List.dropWhile_append, if_neg (by simpa using hne)]

theorem take_two_append (hs : endsTokens s = true) (r : List Char) :
    (r ++ s).take 2 = ['-', '>'] ↔ r.take 2 = ['-', '>'] := by
  match r with
  | [] =>
    have hhyphen := ne_of_endsTokens hs (x := '-') rfl rfl
    cases s with
    | nil => rfl
    | cons c s => simp_all
  | [c] =>
    have harrow := ne_of_endsTokens hs (x := '>') rfl rfl
    cases s with
    | nil => rfl
    | cons d s => simp_all
  | c :: d :: t => rfl

/-- Of the longer text the token is read as of the text alone, or the text ended within it. -/
theorem token_extends (hs : endsTokens s = true) (c : Char) (r : List Char) :
    (token c r).Extends (token c (r ++ s)) s := by
  by_cases hback : startsNewline s = true ∧ (c :: r = ['\\'] ∨ c = '@' ∧ r = ['\\'])
  · obtain ⟨hnewline, hcr⟩ := hback
    refine .of_cut ?_ fun hstop => ?_
    · rcases hcr with hcr | ⟨rfl, rfl⟩
      · obtain ⟨rfl, rfl⟩ := List.cons.inj hcr
        have hstart : StartsName '\\' [] := .inr (.inl ⟨rfl, rfl⟩)
        have hhead : (name ['\\']).rest.head? ≠ some '(' := by simp [name_backslash]
        rw [token_of_startsName hstart, identToken_of_ne hhead, name_backslash]
      · have htoken : token '@' ['\\'] =
            ⟨.atKeyword (text (name ['\\']).value), (name ['\\']).complete,
              (name ['\\']).rest⟩ := rfl
        rw [htoken, name_backslash]
    · rw [startsNewline_of_startsStop hstop] at hnewline
      cases hnewline
  have hident : startsIdent (c :: r ++ s) = startsIdent (c :: r) := by
    refine startsIdent_append hs fun h => ?_
    simpa [h] using hback
  have hat : c = '@' ∧ startsIdent (r ++ s) = true ↔ c = '@' ∧ startsIdent r = true := by
    refine and_congr_right fun hc => ?_
    rw [startsIdent_append hs fun h => ?_]
    simpa [hc, h] using hback
  unfold token
  simp only [← List.cons_append, startsNumber_append hs, hident, hat, take_two_append hs]
  split
  · exact ⟨fun _ => rfl, fun _ => rfl, fun _ => leaves_dropWhile_isSpace r,
      fun hcut => by cases hcut⟩
  split
  · exact numericToken_extends hs (c :: r)
  split
  · exact (quotedRest_extends hs c r).map fun v =>
      v.elim Token.badString fun v => Token.quoted (text v)
  split
  · exact hashToken_extends hs r
  split
  · exact (name_extends hs r).map fun n => Token.atKeyword (text n)
  split
  · exact identToken_extends hs (c :: r)
  · exact punctuation_extends hs c r

/-! ## Lexemes -/

/-- The text ends outside every string, comment, URL and escape. -/
def IsWhole (s : List Char) : Prop :=
  ∀ l ∈ lexemes s, l.complete = true

instance (s : List Char) : Decidable (IsWhole s) :=
  inferInstanceAs (Decidable (∀ l ∈ lexemes s, l.complete = true))

theorem lexemes_nil : lexemes [] = [] := by
  rw [lexemes]

/-- The first lexeme of a text. -/
def Lexeme.ofReading (c : Char) (r : List Char) (t : Reading Token) : Lexeme :=
  ⟨t.value, (c :: r).take (r.length + 1 - t.rest.length), t.complete⟩

theorem lexemes_cons (c : Char) (r : List Char) :
    lexemes (c :: r) = .ofReading c r (token c r) :: lexemes (token c r).rest := by
  rw [lexemes]
  rfl

/-- A lexeme is the same if both the text and what is left of it go on alike. -/
theorem Lexeme.ofReading_append {c : Char} {r s : List Char} {t : Reading Token} :
    ofReading c (r ++ s) ⟨t.value, t.complete, t.rest ++ s⟩ = ofReading c r t := by
  have hlength : (r ++ s).length + 1 - (t.rest ++ s).length = r.length + 1 - t.rest.length := by
    simp only [List.length_append]
    omega
  have htake : (c :: (r ++ s)).take (r.length + 1 - t.rest.length) =
      (c :: r).take (r.length + 1 - t.rest.length) := by
    rw [← List.cons_append, List.take_append_of_le_length]
    simp
  rw [ofReading, ofReading, hlength, htake]

theorem token_append (hs : endsTokens s = true) (hstop : startsStop s = true) {c : Char}
    {r : List Char} (hc : (token c r).complete = true) :
    token c (r ++ s) = ⟨(token c r).value, (token c r).complete, (token c r).rest ++ s⟩ := by
  have hextends := token_extends hs c r
  have hrest := (hextends.leaves hc).eq_append hstop
  have hvalue := hextends.value hc
  have hcomplete := hextends.complete hc
  rw [← hrest, ← hvalue, hc, ← hcomplete]

/-- The lexemes of a text that goes on with a character that ends tokens. -/
theorem lexemes_append {a s : List Char} (ha : IsWhole a) (hs : endsTokens s = true)
    (hstop : startsStop s = true) : lexemes (a ++ s) = lexemes a ++ lexemes s := by
  fun_induction lexemes a with
  | case1 => rfl
  | case2 c r t ih =>
    have ha : ∀ l ∈ Lexeme.ofReading c r t :: lexemes t.rest, l.complete = true := by
      rw [← lexemes_cons]
      exact ha
    have hc : t.complete = true := ha _ List.mem_cons_self
    have hrest := ih fun l hl => ha l (List.mem_cons_of_mem _ hl)
    rw [List.cons_append, lexemes_cons, token_append hs hstop hc, Lexeme.ofReading_append]
    show _ :: lexemes (t.rest ++ s) = _
    rw [hrest]
    rfl

/-- The tokens of a text that goes on with white space, or with a character that ends tokens. White
space may become part of the last lexeme, which is the same token. -/
theorem tokens_append {a s : List Char} (ha : IsWhole a) (hs : endsTokens s = true) :
    ∃ sp s' ls, (∀ c ∈ sp, isSpace c = true) ∧ s = sp ++ s' ∧ lexemes (a ++ s) = ls ++ lexemes s' ∧
      ls.map Lexeme.token = (lexemes a).map Lexeme.token := by
  fun_induction lexemes a with
  | case1 => exact ⟨[], s, [], List.forall_mem_nil _, rfl, rfl, rfl⟩
  | case2 c r t ih =>
    have ha : ∀ l ∈ Lexeme.ofReading c r t :: lexemes t.rest, l.complete = true := by
      rw [← lexemes_cons]
      exact ha
    have hc : t.complete = true := ha _ List.mem_cons_self
    have hextends := token_extends hs c r
    have hvalue : (token c (r ++ s)).value = t.value := hextends.value hc
    rw [List.cons_append, lexemes_cons]
    rcases hextends.leaves hc with hrest | ⟨hrest, sp, hsp, hspace⟩
    · obtain ⟨sp, s', ls, hsp, hspace, hlexemes, htokens⟩ :=
        ih fun l hl => ha l (List.mem_cons_of_mem _ hl)
      refine ⟨sp, s', .ofReading c (r ++ s) (token c (r ++ s)) :: ls, hsp, hspace, ?_,
        congrArg₂ List.cons hvalue htokens⟩
      rw [hrest, List.cons_append]
      exact congrArg _ hlexemes
    · have hnil : t.rest = [] := hrest
      refine ⟨sp, _, [.ofReading c (r ++ s) (token c (r ++ s))], hsp, hspace, rfl, ?_⟩
      rw [hnil, lexemes_nil]
      exact congrArg₂ List.cons hvalue rfl

/-- Where the lexemes of a text part before a character that ends tokens, they are the lexemes of
the text before it. -/
theorem lexemes_of_append {a s : List Char} {ls : List Lexeme} (hs : endsTokens s = true)
    (hstop : startsStop s = true) (htext : ls.flatMap Lexeme.text = a)
    (h : lexemes (a ++ s) = ls ++ lexemes s) : lexemes a = ls ∧ IsWhole a := by
  induction ls generalizing a with
  | nil =>
    obtain rfl : [] = a := htext
    rw [lexemes_nil]
    exact ⟨rfl, by simp [IsWhole, lexemes_nil]⟩
  | cons l ls ih =>
    cases a with
    | nil =>
      have hlength := congrArg List.length h
      rw [List.nil_append, List.length_append, List.length_cons] at hlength
      omega
    | cons c r =>
      rw [List.cons_append, lexemes_cons, List.cons_append] at h
      obtain ⟨hl, hls⟩ := List.cons.inj h
      have hextends := token_extends hs c r
      have hrest : (token c (r ++ s)).rest = ls.flatMap Lexeme.text ++ s := by
        rw [← flatMap_text_lexemes (token c (r ++ s)).rest, hls, List.flatMap_append,
          flatMap_text_lexemes]
      have hc : (token c r).complete = true := by
        by_contra hcut
        have hlt := hextends.runsOn (Bool.eq_false_iff.mpr hcut) hstop
        rw [hrest, List.length_append] at hlt
        omega
      have htoken := token_append hs hstop hc
      have hpart : (token c r).rest = ls.flatMap Lexeme.text := by
        have hboth := (congrArg Reading.rest htoken).symm.trans hrest
        exact List.append_cancel_right hboth
      rw [hrest] at hls
      obtain ⟨hlexemes, hwhole⟩ := ih rfl hls
      rw [htoken, Lexeme.ofReading_append] at hl
      have hall : lexemes (c :: r) = l :: ls := by
        rw [lexemes_cons, hl, hpart, hlexemes]
      refine ⟨hall, ?_⟩
      rw [IsWhole, hall]
      intro l' hl'
      rcases List.mem_cons.mp hl' with rfl | hl'
      · rw [← hl]
        exact hc
      · exact hwhole l' (by rwa [hlexemes])

end StyleTree.Css
