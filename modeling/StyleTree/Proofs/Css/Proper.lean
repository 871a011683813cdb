import StyleTree.Css.ComponentValue
import StyleTree.Proofs.Css.Spelling

/-!
# What tokens hold

No token that is read holds a null character, which has no escape: it reads as a replacement
character. The names of identifiers are not empty. So everything that is read can be written.
-/

namespace StyleTree.Css

/-! ## Characters -/

theorem scalar_ne_null (n : Nat) : scalar n ≠ '\x00' := by
  unfold scalar
  split
  · decide
  next h =>
    have hvalid : n.isValidChar := by
      unfold Nat.isValidChar
      omega
    intro hnull
    have hn : (Char.ofNat n).toNat = 0 := congrArg Char.toNat hnull
    rw [Char.ofNat, dif_pos hvalid] at hn
    exact h (.inl hn)

theorem escape_ne_null (s : List Char) : (escape s).1 ≠ '\x00' := by
  fun_cases escape s with
  | case1 => decide
  | case2 c r d hd => exact scalar_ne_null _
  | case3 c r hc =>
    dsimp only
    split
    · decide
    · assumption

theorem null_notMem_name (s : List Char) : '\x00' ∉ (name s).value := by
  fun_induction name s with
  | case1 => simp
  | case2 => simp
  | case3 r h e more ih =>
    have he := escape_ne_null r
    simp only [List.mem_cons, not_or]
    exact ⟨he.symm, ih⟩
  | case4 c r hback hname more ih =>
    simp only [List.mem_cons, not_or]
    refine ⟨?_, ih⟩
    split
    · decide
    next hc => exact Ne.symm hc
  | case5 => simp

theorem null_notMem_quotedRest (quote : Char) (s : List Char) :
    ∀ value ∈ (quotedRest quote s).value, '\x00' ∉ value := by
  fun_induction quotedRest quote s with
  | case1 => simp
  | case2 => simp
  | case3 => simp
  | case4 r _ _ _ ih => exact ih
  | case5 => simp
  | case6 r _ _ e _ _ more ih =>
    have he := escape_ne_null r
    simp only [Option.mem_def, Option.map_eq_some_iff]
    rintro _ ⟨value, hvalue, rfl⟩
    simp only [List.mem_cons, not_or]
    exact ⟨he.symm, ih value hvalue⟩
  | case7 c r _ _ _ more ih =>
    simp only [Option.mem_def, Option.map_eq_some_iff]
    rintro _ ⟨value, hvalue, rfl⟩
    simp only [List.mem_cons, not_or]
    refine ⟨?_, ih value hvalue⟩
    split
    · decide
    next hc => exact Ne.symm hc

/-- A name is not empty where an identifier starts. -/
theorem name_ne_nil {s : List Char} (h : startsIdent s = true) : (name s).value ≠ [] := by
  have hplain : ∀ c r, isNameChar c = true → (name (c :: r)).value ≠ [] := by
    intro c r hc
    have hback : c ≠ '\\' := by
      rintro rfl
      cases hc
    rw [name, if_neg hback, if_pos hc]
    exact List.cons_ne_nil _ _
  fun_cases startsIdent s with
  | case1 c r => exact hplain '-' _ rfl
  | case2 r =>
    have hr : startsNewline r = false := by simpa [startsIdent] using h
    rw [name, if_pos rfl, hr]
    exact List.cons_ne_nil _ _
  | case3 c r hhyphen hback =>
    apply hplain
    have hc : isNameStart c = true := by
      rwa [startsIdent] at h
      · exact hhyphen
      · exact hback
    simp [isNameChar, hc]
  | case4 => cases h

/-! ## Tokens -/

/-- The token can be written: its name is one, its value holds no null character. A number without a
sign is not negative. -/
def Token.IsProper : Token → Prop
  | .ident name | .idHash name => IsName name
  | .quoted value => '\x00' ∉ value.toList
  | .number n => n.signed = false → 0 ≤ n.mantissa
  | _ => True

theorem isName_text_name {s : List Char} (h : startsIdent s = true) :
    IsName (text (name s).value) := by
  rw [IsName, text, String.toList_ofList]
  exact ⟨name_ne_nil h, null_notMem_name s⟩

theorem mantissa_nonneg_of_unsigned {s : List Char} (h : (numeral s).1.signed = false) :
    0 ≤ (numeral s).1.mantissa := by
  have hminus : (sign s).1 ≠ some true := by
    intro hminus
    simp [numeral, hminus] at h
  simp [numeral, hminus]

theorem isProper_numericToken (s : List Char) : (numericToken s).value.IsProper := by
  unfold numericToken
  dsimp only
  split
  · trivial
  · split
    · trivial
    · exact mantissa_nonneg_of_unsigned

theorem isProper_identToken {s : List Char} (h : startsIdent s = true) :
    (identToken s).value.IsProper := by
  unfold identToken
  dsimp only
  split
  · split
    · split
      · trivial
      · trivial
      · dsimp only
        cases (urlRest _ _).value <;> trivial
    · trivial
  · exact isName_text_name h

theorem isProper_hashToken (s : List Char) : (hashToken s).value.IsProper := by
  unfold hashToken
  dsimp only
  split
  next h => exact isName_text_name h
  · split <;> trivial

theorem isProper_punctuation (c : Char) (r : List Char) : (punctuation c r).value.IsProper := by
  unfold punctuation
  split <;> trivial

theorem isProper_token (c : Char) (r : List Char) : (token c r).value.IsProper := by
  unfold token
  split
  · trivial
  split
  · exact isProper_numericToken _
  split
  · have h := null_notMem_quotedRest c r
    dsimp only
    cases hvalue : (quotedRest c r).value with
    | none => trivial
    | some value =>
      show '\x00' ∉ (text value).toList
      rw [text, String.toList_ofList]
      exact h value hvalue
  split
  · exact isProper_hashToken r
  split
  · trivial
  split
  next h => exact isProper_identToken h.1
  · exact isProper_punctuation c r

theorem isProper_of_mem_lexemes {s : List Char} {l : Lexeme} (h : l ∈ lexemes s) :
    l.token.IsProper := by
  fun_induction lexemes s with
  | case1 => cases h
  | case2 c r t ih =>
    rcases List.mem_cons.mp h with rfl | h
    · exact isProper_token c r
    · exact ih h

/-! ## Values -/

/-- Every token within the value can be written. -/
inductive ComponentValue.IsProper : ComponentValue → Prop where
  | token {l : Lexeme} (hl : l.token.IsProper) : IsProper (.token l)
  | block {o : Lexeme} {body : List ComponentValue} {close : Option Lexeme}
    (hbody : ∀ v ∈ body, v.IsProper) : IsProper (.block o body close)

/-- Every token within the values can be written. -/
def AllProper (vs : List ComponentValue) : Prop :=
  ∀ v ∈ vs, v.IsProper

theorem AllProper.nil : AllProper [] := by
  intro v hv
  cases hv

theorem AllProper.head {v : ComponentValue} {vs : List ComponentValue} (h : AllProper (v :: vs)) :
    v.IsProper :=
  h v List.mem_cons_self

theorem AllProper.tail {v : ComponentValue} {vs : List ComponentValue} (h : AllProper (v :: vs)) :
    AllProper vs :=
  fun u hu => h u (List.mem_cons_of_mem v hu)

theorem AllProper.of_suffix {vs us : List ComponentValue} (h : AllProper vs) (hus : us <:+ vs) :
    AllProper us :=
  fun u hu => h u (hus.mem hu)

/-- The values that have been read, within every open block, can be written. -/
def Nesting.IsProper (n : Nesting) : Prop :=
  AllProper n.current ∧ ∀ p ∈ n.open_, AllProper p.2

theorem allProper_cons {v : ComponentValue} {vs : List ComponentValue} (hv : v.IsProper)
    (hvs : AllProper vs) : AllProper (v :: vs) := by
  intro u hu
  rcases List.mem_cons.mp hu with rfl | hu
  · exact hv
  · exact hvs u hu

theorem ComponentValue.IsProper.token_isProper {l : Lexeme} (h : IsProper (.token l)) :
    l.token.IsProper := by
  cases h with
  | token hl => exact hl

theorem ComponentValue.IsProper.of_reverse {o : Lexeme} {body : List ComponentValue}
    {close : Option Lexeme} (h : AllProper body) : IsProper (.block o body.reverse close) :=
  .block fun v hv => h v (List.mem_reverse.mp hv)

theorem Nesting.IsProper.read {n : Nesting} {l : Lexeme} (hn : n.IsProper)
    (hl : l.token.IsProper) : (n.read l).IsProper := by
  obtain ⟨current, outer⟩ := n
  obtain ⟨hcurrent, houter⟩ := hn
  have hopens : Nesting.IsProper ⟨[], (l, current) :: outer⟩ := by
    refine ⟨.nil, fun p hp => ?_⟩
    rcases List.mem_cons.mp hp with rfl | hp
    · exact hcurrent
    · exact houter p hp
  have hplain : Nesting.IsProper ⟨.token l :: current, outer⟩ :=
    ⟨allProper_cons (.token hl) hcurrent, houter⟩
  unfold Nesting.read
  dsimp only
  split
  next o before outer =>
    split
    · refine ⟨allProper_cons (.of_reverse hcurrent) (houter _ List.mem_cons_self), ?_⟩
      exact fun p hp => houter p (List.mem_cons_of_mem _ hp)
    · split
      · exact hopens
      · exact hplain
  · split
    · exact hopens
    · exact hplain

theorem allProper_finish {current : List ComponentValue}
    {outer : List (Lexeme × List ComponentValue)} (h : Nesting.IsProper ⟨current, outer⟩) :
    AllProper (Nesting.finish current outer) := by
  induction outer generalizing current with
  | nil => exact fun v hv => h.1 v (List.mem_reverse.mp hv)
  | cons p outer ih =>
    apply ih
    refine ⟨allProper_cons (.of_reverse h.1) (h.2 p List.mem_cons_self), ?_⟩
    exact fun q hq => h.2 q (List.mem_cons_of_mem p hq)

/-- Whatever the text, all that is read can be written. -/
theorem allProper_values (s : String) : AllProper (values s) := by
  have hread : ∀ (ls : List Lexeme) (n : Nesting), (∀ l ∈ ls, l.token.IsProper) → n.IsProper →
      (ls.foldl Nesting.read n).IsProper := by
    intro ls
    induction ls with
    | nil => exact fun n _ hn => hn
    | cons l ls ih =>
      intro n hls hn
      refine ih _ (fun l' hl' => hls l' (List.mem_cons_of_mem l hl')) ?_
      exact hn.read (hls l List.mem_cons_self)
  exact allProper_finish (hread _ {} (fun l hl => isProper_of_mem_lexemes hl) ⟨.nil, nofun⟩)

/-! ## Readers of values that can be written -/

theorem skipBlank_suffix (vs : List ComponentValue) : skipBlank vs <:+ vs :=
  List.dropWhile_suffix _

theorem skipComments_suffix (vs : List ComponentValue) : skipComments vs <:+ vs :=
  List.dropWhile_suffix _

/-- What follows the first value after blanks is left. -/
theorem suffix_of_skipBlank {vs rest : List ComponentValue} {v : ComponentValue}
    (h : skipBlank vs = v :: rest) : rest <:+ vs :=
  (List.suffix_cons v rest).trans (h ▸ skipBlank_suffix vs)

theorem AllProper.skipBlank {vs : List ComponentValue} (h : AllProper vs) :
    AllProper (skipBlank vs) :=
  h.of_suffix (skipBlank_suffix vs)

theorem isName_of_isProper {name : String} {text : List Char} {complete : Bool}
    (h : ComponentValue.IsProper (.token ⟨.ident name, text, complete⟩)) : IsName name :=
  h.token_isProper

/-- An identifier or a string holds no null character. -/
theorem identOrQuoted?_spec {vs rest : List ComponentValue} {s : String} (hvs : AllProper vs)
    (h : identOrQuoted? vs = some (s, rest)) : '\x00' ∉ s.toList ∧ rest <:+ vs := by
  unfold identOrQuoted? at h
  split at h
  next hskip =>
    cases h
    exact ⟨(isName_of_isProper (hskip ▸ hvs.skipBlank).head).2, suffix_of_skipBlank hskip⟩
  next hskip =>
    cases h
    exact ⟨(hskip ▸ hvs.skipBlank).head.token_isProper, suffix_of_skipBlank hskip⟩
  · cases h

theorem ident?_spec {vs rest : List ComponentValue} {s : String} (hvs : AllProper vs)
    (h : ident? vs = some (s, rest)) : IsName s ∧ rest <:+ vs := by
  unfold ident? at h
  split at h
  next hskip =>
    cases h
    exact ⟨isName_of_isProper (hskip ▸ hvs.skipBlank).head, suffix_of_skipBlank hskip⟩
  · cases h

theorem keyword?_suffix {word : String} {vs rest : List ComponentValue} (hvs : AllProper vs)
    (h : keyword? word vs = some rest) : rest <:+ vs := by
  unfold keyword? at h
  split at h
  next hident =>
    split at h
    · cases h
      exact (ident?_spec hvs hident).2
    · cases h
  · cases h

end StyleTree.Css
