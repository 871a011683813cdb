import StyleTree.Proofs.Css.Nested

/-!
# Where texts part

The characters that end tokens are tokens of their own, and no other character is read as such a
token. A text parts there: the lexemes before it are those of the text before it, and the lexemes
behind it are those of the text behind it.
-/

namespace StyleTree.Css

/-! ## Marks -/

/-- The token is made of more than marks: a name, a number, a string, a URL or a hash. -/
def Token.isWord : Token → Bool
  | .ident _ | .function _ | .atKeyword _ | .idHash _ | .hash _ | .quoted _ | .url _ | .number _
  | .percentage _ | .dimension _ _ | .badString | .badUrl => true
  | .delim c => c == '#'
  | _ => false

theorem numericToken_isWord (s : List Char) : (numericToken s).value.isWord = true := by
  unfold numericToken
  dsimp only
  split
  · rfl
  split <;> rfl

theorem identToken_isWord (s : List Char) : (identToken s).value.isWord = true := by
  unfold identToken
  dsimp only
  split
  · split
    · split
      · rfl
      · rfl
      · cases (urlRest [] _).value <;> rfl
    · rfl
  · rfl

theorem hashToken_isWord (s : List Char) : (hashToken s).value.isWord = true := by
  unfold hashToken
  dsimp only
  split
  · rfl
  split <;> rfl

/-- White space, a word, or marks. -/
theorem token_cases (c : Char) (r : List Char) :
    (isSpace c = true ∧ token c r = ⟨.whitespace, true, r.dropWhile isSpace⟩) ∨
      (token c r).value.isWord = true ∨ token c r = punctuation c r := by
  unfold token
  split
  · exact .inl ⟨‹_›, rfl⟩
  split
  · exact .inr (.inl (numericToken_isWord _))
  split
  · refine .inr (.inl ?_)
    dsimp only
    cases (quotedRest c r).value <;> rfl
  split
  · exact .inr (.inl (hashToken_isWord r))
  split
  · exact .inr (.inl rfl)
  split
  · exact .inr (.inl (identToken_isWord _))
  · exact .inr (.inr rfl)

/-- The character that the token is, if it is one that ends tokens. -/
def Token.stop? : Token → Option Char
  | .semicolon => some ';'
  | .comma => some ','
  | .curlyOpen => some '\x7b'
  | .curlyClose => some '\x7d'
  | .delim '!' => some '!'
  | _ => none

theorem isStop_of_stop? {t : Token} {c : Char} (h : t.stop? = some c) : isStop c = true := by
  unfold Token.stop? at h
  split at h <;> cases h <;> rfl

/-- Only an exclamation mark may be part of a longer token. -/
theorem endsTokens_cons {x : Char} (h : isStop x = true) (hx : x ≠ '!') (s : List Char) :
    endsTokens (x :: s) = true := by
  rw [endsTokens, List.dropWhile_cons_of_neg (by simp [isSpace_of_isStop h])]
  simp [h, hx]

theorem stop?_of_isWord {t : Token} (h : t.isWord = true) : t.stop? = none := by
  unfold Token.stop?
  split
  all_goals first
    | rfl
    | cases h

theorem eq_of_stop?_delim {c x : Char} (h : (Token.delim c).stop? = some x) : c = x := by
  by_cases hc : c = '!'
  · subst hc
    exact Option.some.inj h
  · simp [Token.stop?, hc] at h

theorem punctuation_of_stop? {c x : Char} {r : List Char}
    (h : (punctuation c r).value.stop? = some x) :
    c = x ∧ punctuation c r = ⟨(punctuation c r).value, true, r⟩ := by
  unfold punctuation at h ⊢
  split at h
  case h_18 => exact ⟨eq_of_stop?_delim h, rfl⟩
  all_goals cases h
  all_goals exact ⟨rfl, rfl⟩

/-- A token that is a stop character is read at that character alone. -/
theorem token_of_stop? {c x : Char} {r : List Char} (h : (token c r).value.stop? = some x) :
    c = x ∧ token c r = ⟨(token c r).value, true, r⟩ := by
  rcases token_cases c r with ⟨-, htoken⟩ | hword | htoken
  · rw [htoken] at h
    cases h
  · rw [stop?_of_isWord hword] at h
    cases h
  · rw [htoken] at h ⊢
    exact punctuation_of_stop? h

/-! ## Hyphens -/

theorem eq_text_name_of_identToken {s : List Char} {x : String}
    (h : (identToken s).value = .ident x) : x = text (name s).value := by
  unfold identToken at h
  dsimp only at h
  split at h
  · split at h
    · split at h
      · cases h
      · cases h
      · revert h
        cases (urlRest [] _).value <;> exact nofun
    · cases h
  · cases h
    rfl

/-- Two hyphens start a name, or close a comment. -/
theorem token_hyphens (w : List Char) :
    (token '-' ('-' :: w)).value.isBlank = false ∧
      ∀ x, (token '-' ('-' :: w)).value = .ident x → x.toList.head? = some '-' := by
  have htoken : token '-' ('-' :: w) =
      if startsIdent ('-' :: '-' :: w) ∧ ¬('-' = '-' ∧ ('-' :: w).take 2 = ['-', '>']) then
        identToken ('-' :: '-' :: w)
      else punctuation '-' ('-' :: w) := rfl
  have hname : (name ('-' :: '-' :: w)).value.head? = some '-' := by
    rw [name]
    rfl
  have hpunctuation : (punctuation '-' ('-' :: w)).value = .commentClose ∨
      (punctuation '-' ('-' :: w)).value = .delim '-' := by
    unfold punctuation
    split <;> simp_all
  rw [htoken]
  split
  · constructor
    · have hword := identToken_isWord ('-' :: '-' :: w)
      revert hword
      cases (identToken ('-' :: '-' :: w)).value <;> simp [Token.isWord, Token.isBlank]
    · rintro x hx
      rw [eq_text_name_of_identToken hx, text, String.toList_ofList, hname]
  · rcases hpunctuation with h | h <;> rw [h] <;> exact ⟨rfl, fun x hx => by cases hx⟩

/-! ## Gaps -/

/-- White space, a comment, or one of the marks that once hid style sheets. -/
def Token.isGap (t : Token) : Bool :=
  t.isBlank || t == .commentOpen || t == .commentClose

theorem commentRest_append {s : List Char} (h : (commentRest s).complete = true) (b : List Char) :
    commentRest (s ++ b) = ⟨(), true, (commentRest s).rest ++ b⟩ := by
  fun_induction commentRest s with
  | case1 r => rfl
  | case2 c r hend ih =>
    rw [List.cons_append, commentRest]
    · exact ih h
    · intro t hc ht
      cases r with
      | nil => cases h
      | cons d r =>
        obtain ⟨rfl, -⟩ := List.cons.inj ht
        exact hend r hc rfl
  | case3 => cases h

/-- A comment or such a mark is read alike whatever comes next. -/
theorem token_append_of_isGap {c : Char} {r : List Char} (hgap : (token c r).value.isGap = true)
    (hspace : isSpace c = false) (hc : (token c r).complete = true) (b : List Char) :
    token c (r ++ b) = ⟨(token c r).value, true, (token c r).rest ++ b⟩ := by
  rcases token_cases c r with ⟨hspace', -⟩ | hword | htoken
  · rw [hspace] at hspace'
    cases hspace'
  · revert hgap hword
    cases (token c r).value <;> simp [Token.isGap, Token.isWord, Token.isBlank]
  · rw [htoken] at hgap hc ⊢
    unfold punctuation at hgap hc ⊢
    split at hgap
    case h_15 s => rfl
    case h_16 s => rfl
    case h_17 s =>
      have hcomment := commentRest_append hc b
      have hopen : token '/' ('*' :: (s ++ b)) =
          ⟨.comment, (commentRest (s ++ b)).complete, (commentRest (s ++ b)).rest⟩ := rfl
      rw [List.cons_append, hopen, hcomment]
    all_goals cases hgap

/-! ## Parts of a text -/

/-- The lexemes behind some of them are those of the text behind it. -/
theorem lexemes_of_suffix {s : List Char} {ls ms : List Lexeme} (h : lexemes s = ls ++ ms) :
    lexemes (ms.flatMap Lexeme.text) = ms := by
  induction ls generalizing s with
  | nil =>
    obtain rfl : lexemes s = ms := h
    rw [flatMap_text_lexemes]
  | cons l ls ih =>
    cases s with
    | nil =>
      rw [lexemes_nil] at h
      cases h
    | cons c r =>
      rw [lexemes_cons, List.cons_append] at h
      exact ih (List.cons.inj h).2

/-- White space in front is at most a lexeme of its own. -/
theorem lexemes_dropWhile_isSpace (s : List Char) :
    ∃ blanks, (∀ l ∈ blanks, l.token = .whitespace) ∧
      lexemes s = blanks ++ lexemes (s.dropWhile isSpace) := by
  cases s with
  | nil => exact ⟨[], List.forall_mem_nil _, rfl⟩
  | cons c r =>
    by_cases hc : isSpace c = true
    · have htoken : token c r = ⟨.whitespace, true, r.dropWhile isSpace⟩ := by
        rw [token, if_pos hc]
      refine ⟨[.ofReading c r (token c r)], by simp [Lexeme.ofReading, htoken], ?_⟩
      rw [lexemes_cons, htoken, List.dropWhile_cons_of_pos hc]
      rfl
    · exact ⟨[], List.forall_mem_nil _, by rw [List.dropWhile_cons_of_neg hc, List.nil_append]⟩

theorem lexeme_of_stop? {s : List Char} {l : Lexeme} {ms : List Lexeme} {x : Char}
    (h : lexemes s = l :: ms) (hl : l.token.stop? = some x) :
    s = x :: ms.flatMap Lexeme.text ∧ l = ⟨l.token, [x], true⟩ := by
  cases s with
  | nil =>
    rw [lexemes_nil] at h
    cases h
  | cons c r =>
    rw [lexemes_cons] at h
    obtain ⟨rfl, rfl⟩ := List.cons.inj h
    obtain ⟨rfl, htoken⟩ := token_of_stop? (show (token c r).value.stop? = some x from hl)
    have hrest : (token c r).rest = r := congrArg Reading.rest htoken
    have htext : (Lexeme.ofReading c r (token c r)).text = [c] := by
      simp [Lexeme.ofReading, hrest]
    refine ⟨by rw [flatMap_text_lexemes, hrest], ?_⟩
    rw [← htext]
    exact congrArg (Lexeme.mk _ _) (congrArg Reading.complete htoken)

/-- A stop character is read alike whatever comes next. -/
theorem lexemes_cons_stop {t : Token} {x : Char} (h : t.stop? = some x) (s : List Char) :
    lexemes (x :: s) = ⟨t, [x], true⟩ :: lexemes s := by
  have hfixed : t.fixedText? = some [x] := by
    unfold Token.stop? at h
    split at h <;> cases h <;> rfl
  exact spelled_fixed hfixed s

/-- A text whose lexemes hold a stop character parts there. -/
theorem lexemes_of_stop? {s : List Char} {ls ms : List Lexeme} {l : Lexeme} {x : Char}
    (h : lexemes s = ls ++ l :: ms) (hl : l.token.stop? = some x)
    (hends : endsTokens (x :: ms.flatMap Lexeme.text) = true) :
    lexemes (ls.flatMap Lexeme.text) = ls ∧ IsWhole (ls.flatMap Lexeme.text) ∧
      l = ⟨l.token, [x], true⟩ := by
  have hsuffix := lexemes_of_suffix h
  obtain ⟨htext, hlexeme⟩ := lexeme_of_stop? hsuffix hl
  have hs : s = ls.flatMap Lexeme.text ++ (l :: ms).flatMap Lexeme.text := by
    rw [← List.flatMap_append, ← h, flatMap_text_lexemes]
  rw [htext] at hs hsuffix
  have hstop : startsStop (x :: ms.flatMap Lexeme.text) = true := isStop_of_stop? hl
  obtain ⟨hls, hwhole⟩ := lexemes_of_append hends hstop rfl (by rw [← hs, h, hsuffix])
  exact ⟨hls, hwhole, hlexeme⟩

/-- A closed text and another one, parted by a stop character. -/
theorem values_append_stop {a mark : String} (ha : IsClosed a) {t : Token} {x : Char}
    (ht : t.stop? = some x) (hmark : mark.toList = [x]) (hx : x ≠ '!') (hplain : t.closer? = none)
    (b : String) : values (a ++ mark ++ b) = values a ++ .token ⟨t, [x], true⟩ :: values b := by
  have hstop := isStop_of_stop? ht
  have htext : (a ++ mark ++ b).toList = a.toList ++ x :: b.toList := by
    simp [String.toList_append, hmark]
  rw [values, htext, nest_lexemes_append ha (endsTokens_cons hstop hx _) hstop,
    lexemes_cons_stop ht, nest_cons_plain hplain, values, values]

end StyleTree.Css
