import Mathlib.Tactic.ByContra
import StyleTree.Css.Escaped
import StyleTree.Css.Lexer

/-!
# Tokens are read as they are spelled

A name is written with escapes, a value between quotes, a number by its digits. Each of them is
read as the token that it was written for, if what follows does not go on with it. `Spelled` says
so of a lexeme and the text after it.
-/

namespace StyleTree.Css

/-! ## Escapes -/

/-- The reader of escapes gives back a character below 128 that is written by its number. -/
theorem escape_hexEscape {c : Char} (hc : c ≠ '\x00') (hsmall : c.toNat < 128) :
    ∃ s, hexEscape c = '\\' :: s ∧ s ≠ [] ∧
      ∀ r, escape (s ++ r) = (c, r) ∧ startsNewline (s ++ r) = false := by
  have hdigit : ∀ n < 16, Ascii.hexDigit? (Ascii.hexChar n) = some n ∧
      isNewline (Ascii.hexChar n) = false := by decide
  have hpos : c.toNat ≠ 0 := by
    intro h
    exact hc (Char.toNat_inj.mp h)
  have hscalar : scalar c.toNat = c := by
    rw [scalar, if_neg (by omega), Char.ofNat_toNat]
  have hspace : Ascii.hexDigit? ' ' = none := by decide
  unfold hexEscape
  dsimp only
  split
  next hn =>
    refine ⟨[Ascii.hexChar c.toNat, ' '], rfl, List.cons_ne_nil _ _, fun r => ⟨?_, (hdigit _ hn).2⟩⟩
    simp [escape, (hdigit _ hn).1, hexDigits, hspace, hscalar, dropOneSpace, isSpace]
  next hn =>
    have hhigh := hdigit (c.toNat / 16) (by omega)
    have hlow := hdigit (c.toNat % 16) (by omega)
    have hvalue : 16 * (c.toNat / 16) + c.toNat % 16 = c.toNat := Nat.div_add_mod _ _
    refine ⟨[Ascii.hexChar (c.toNat / 16), Ascii.hexChar (c.toNat % 16), ' '], rfl,
      List.cons_ne_nil _ _, fun r => ⟨?_, hhigh.2⟩⟩
    simp [escape, hhigh.1, hlow.1, hexDigits, hspace, hvalue, hscalar, dropOneSpace, isSpace]

theorem isControl_of_isNewline {c : Char} (h : isNewline c = true) : isControl c = true := by
  simp only [isNewline, Bool.or_eq_true, beq_iff_eq] at h
  rcases h with (rfl | rfl) | rfl <;> decide

theorem isAlphanumeric_of_hexDigit? {c : Char} (h : Ascii.hexDigit? c ≠ none) :
    Ascii.isAlphanumeric c = true := by
  unfold Ascii.hexDigit? at h
  simp only [Ascii.isAlphanumeric, Ascii.isAlpha, Bool.or_eq_true, Bool.and_eq_true,
    decide_eq_true_eq] at h ⊢
  split at h
  next hd => exact .inr hd
  · split at h
    next hl => exact .inl (.inl ⟨hl.1, Char.le_trans hl.2 (by decide)⟩)
    · split at h
      next hu => exact .inl (.inr ⟨hu.1, Char.le_trans hu.2 (by decide)⟩)
      · exact absurd rfl h

/-- A character after a backslash stands for itself. -/
theorem escape_punctuation {c : Char} (hc : c ≠ '\x00') (hhex : Ascii.hexDigit? c = none)
    (r : List Char) : escape (c :: r) = (c, r) := by
  simp [escape, hhex, hc]

/-! ## Names -/

theorem isDigit_of_isNameStart {c : Char} (h : isNameStart c = true) :
    Ascii.isDigit c = false := by
  rw [Bool.eq_false_iff]
  intro hd
  simp only [Ascii.isDigit, Bool.and_eq_true, decide_eq_true_eq, Char.le_def] at hd
  simp only [isNameStart, Ascii.isAlpha, Bool.or_eq_true, Bool.and_eq_true, decide_eq_true_eq,
    beq_iff_eq, Char.le_def] at h
  have hlow : 48 ≤ c.toNat := hd.1
  have hhigh : c.toNat ≤ 57 := hd.2
  rcases h with ((((h | h) | rfl) | rfl) | h)
  · have : 97 ≤ c.toNat := h.1
    omega
  · have : 65 ≤ c.toNat := h.1
    omega
  · revert hhigh
    decide
  · revert hlow
    decide
  · omega

theorem lt_of_isDigit {c : Char} (h : Ascii.isDigit c = true) : c.toNat < 128 := by
  simp only [Ascii.isDigit, Bool.and_eq_true, decide_eq_true_eq, Char.le_def] at h
  have : c.toNat ≤ 57 := h.2
  omega

/-- The text `c :: s` starts with a name. -/
def StartsName (c : Char) (s : List Char) : Prop :=
  isNameStart c = true ∨ (c = '\\' ∧ startsNewline s = false) ∨
    c = '-' ∧ ∃ c' s', s = c' :: s' ∧
      (isNameStart c' = true ∨ c' = '\\' ∨ c' = '-' ∧ s'.head? ≠ some '>')

/-- No number starts with a name, with or without a sign before it. -/
theorem startsNumber_of_isNameStart {c : Char} {s t : List Char} (h : isNameStart c = true)
    (ht : t = c :: s ∨ t = '-' :: c :: s) : startsNumber t = false := by
  have hsign : (sign t).2 = c :: s := by
    rcases ht with rfl | rfl
    · unfold sign
      split
      · next e =>
        obtain ⟨rfl, -⟩ := List.cons.inj e
        cases h
      · next e =>
        obtain ⟨rfl, -⟩ := List.cons.inj e
        cases h
      · rfl
    · rfl
  unfold startsNumber
  rw [hsign]
  split
  · next e =>
    obtain ⟨rfl, -⟩ := List.cons.inj e
    cases h
  · exact isDigit_of_isNameStart h

theorem startsIdent_of_isNameStart {c : Char} {s : List Char} (h : isNameStart c = true) :
    startsIdent (c :: s) = true := by
  unfold startsIdent
  split
  · next e =>
    obtain ⟨rfl, -⟩ := List.cons.inj e
    cases h
  · next e =>
    obtain ⟨rfl, -⟩ := List.cons.inj e
    cases h
  · next e =>
    obtain ⟨rfl, -⟩ := List.cons.inj e
    exact h
  · next e => cases e

theorem startsIdent_of_startsName {c : Char} {s : List Char} (h : StartsName c s) :
    startsIdent (c :: s) = true := by
  rcases h with h | ⟨rfl, h⟩ | ⟨rfl, c', s', rfl, h⟩
  · exact startsIdent_of_isNameStart h
  · simp [startsIdent, h]
  · rcases h with h | rfl | ⟨rfl, -⟩ <;> simp_all [startsIdent]

/-- Where a name starts, a name or a function is read. -/
theorem token_of_startsName {c : Char} {s : List Char} (h : StartsName c s) :
    token c s = identToken (c :: s) := by
  have hident := startsIdent_of_startsName h
  rcases h with h | ⟨rfl, h⟩ | ⟨rfl, c', s', rfl, h⟩
  · have hother : ∀ x, isNameStart x = false → c ≠ x := by
      rintro x hx rfl
      simp [h] at hx
    have hspace : isSpace c = false := by
      simp only [isSpace, isNewline, Bool.or_eq_false_iff, beq_eq_false_iff_ne]
      exact ⟨⟨hother _ rfl, hother _ rfl⟩, ⟨hother _ rfl, hother _ rfl⟩, hother _ rfl⟩
    unfold token
    simp [hspace, startsNumber_of_isNameStart h (.inl rfl), hident, hother '"' rfl,
      hother '\'' rfl, hother '#' rfl, hother '@' rfl, hother '-' rfl]
  · have hnumber : startsNumber ('\\' :: s) = false := rfl
    unfold token
    simp [hnumber, hident, isSpace, isNewline]
  · have hnumber : startsNumber ('-' :: c' :: s') = false := by
      rcases h with h | rfl | ⟨rfl, -⟩
      · exact startsNumber_of_isNameStart h (.inr rfl)
      · rfl
      · rfl
    have harrow : c' = '-' → s'.take 1 ≠ ['>'] := by
      rintro rfl hs'
      rcases h with h | h | ⟨-, h⟩
      · cases h
      · cases h
      · cases s' <;> simp_all
    unfold token
    simp only [hnumber, hident]
    simpa [isSpace, isNewline] using fun h h' => absurd h' (harrow h)

/-- The text does not go on with a name. -/
def stopsName : List Char → Bool
  | [] => true
  | c :: _ => !isNameChar c && c != '\\'

theorem name_of_stopsName {r : List Char} (h : stopsName r = true) : name r = ⟨[], true, r⟩ := by
  cases r with
  | nil => rw [name]
  | cons c r =>
    simp only [stopsName, Bool.and_eq_true, Bool.not_eq_true', bne_iff_ne] at h
    rw [name, if_neg h.2, if_neg (by simp [h.1])]

theorem name_hexEscape {c : Char} (hc : c ≠ '\x00') (hsmall : c.toNat < 128) (r : List Char) :
    name (hexEscape c ++ r) = ⟨c :: (name r).value, (name r).complete, (name r).rest⟩ := by
  obtain ⟨s, hs, hne, hread⟩ := escape_hexEscape hc hsmall
  rw [hs, List.cons_append, name, if_pos rfl, (hread r).1, (hread r).2]
  simp [hne]

theorem name_escapeNameChar {c : Char} (hc : c ≠ '\x00') (r : List Char) :
    name (escapeNameChar c ++ r) = ⟨c :: (name r).value, (name r).complete, (name r).rest⟩ := by
  unfold escapeNameChar
  by_cases hplain :
      (Ascii.isAlphanumeric c || c == '_' || c == '-' || decide (c.toNat ≥ 0x80)) = true
  · rw [if_pos hplain]
    have hname : isNameChar c = true := by
      simp only [Ascii.isAlphanumeric, Bool.or_eq_true] at hplain
      simp only [isNameChar, isNameStart, Bool.or_eq_true]
      grind
    have hback : c ≠ '\\' := by
      rintro rfl
      revert hplain
      decide
    rw [List.singleton_append, name, if_neg hback, if_pos hname, if_neg hc]
  · rw [if_neg hplain, if_neg hc]
    split
    next hcontrol =>
      refine name_hexEscape hc ?_ r
      simp only [isControl, Bool.or_eq_true, Bool.and_eq_true, decide_eq_true_eq, beq_iff_eq]
        at hcontrol
      omega
    next hcontrol =>
      have hnewline : startsNewline (c :: r) = false := by
        rw [startsNewline, Bool.eq_false_iff]
        exact fun h => hcontrol (isControl_of_isNewline h)
      have hhex : Ascii.hexDigit? c = none := by
        by_contra hhex
        simp [isAlphanumeric_of_hexDigit? hhex] at hplain
      rw [List.cons_append, List.singleton_append, name, if_pos rfl, hnewline,
        escape_punctuation hc hhex]
      simp

theorem name_flatMap_escapeNameChar {cs : List Char} (hcs : '\x00' ∉ cs) {r : List Char}
    (hr : stopsName r = true) : name (cs.flatMap escapeNameChar ++ r) = ⟨cs, true, r⟩ := by
  induction cs with
  | nil => exact name_of_stopsName hr
  | cons c cs ih =>
    have hc : c ≠ '\x00' := fun h => hcs (h ▸ List.mem_cons_self)
    have ih := ih fun h => hcs (List.mem_cons_of_mem c h)
    rw [List.flatMap_cons, List.append_assoc, name_escapeNameChar hc, ih]

/-- The first character of a name is escaped if it is a digit. -/
theorem name_escapeFirst {c : Char} (hc : c ≠ '\x00') (r : List Char) :
    name ((if Ascii.isDigit c then hexEscape c else escapeNameChar c) ++ r) =
      ⟨c :: (name r).value, (name r).complete, (name r).rest⟩ := by
  split
  next hd => exact name_hexEscape hc (lt_of_isDigit hd) r
  · exact name_escapeNameChar hc r

/-- A name that a token can hold: it is not empty, and a null character cannot be written. -/
def IsName (s : String) : Prop :=
  s.toList ≠ [] ∧ '\x00' ∉ s.toList

/-- What is written for a name is read as that name. -/
theorem name_escapeIdent {cs : List Char} (hcs : '\x00' ∉ cs) {r : List Char}
    (hr : stopsName r = true) : name (escapeIdent cs ++ r) = ⟨cs, true, r⟩ := by
  have hhyphen : ∀ s, name ('-' :: s) =
      ⟨'-' :: (name s).value, (name s).complete, (name s).rest⟩ := by
    intro s
    exact name_escapeNameChar (c := '-') (by decide) s
  unfold escapeIdent
  split
  · exact name_of_stopsName hr
  · have hescape : name ('\\' :: '-' :: r) =
        ⟨'-' :: (name r).value, (name r).complete, (name r).rest⟩ := by
      rw [name, if_pos rfl, escape_punctuation (by decide) (by decide)]
      simp [startsNewline, isNewline]
    rw [List.cons_append, List.singleton_append, hescape, name_of_stopsName hr]
  · next s =>
    rw [List.cons_append, List.cons_append, hhyphen, hhyphen,
      name_flatMap_escapeNameChar (by simpa using hcs) hr]
  · next c s _ =>
    have hc : '\x00' ≠ c ∧ '\x00' ∉ s := by simpa using hcs
    rw [List.append_assoc, List.cons_append, hhyphen, name_escapeFirst hc.1.symm,
      name_flatMap_escapeNameChar hc.2 hr]
  · next c s _ _ _ =>
    have hc : '\x00' ≠ c ∧ '\x00' ∉ s := by simpa using hcs
    rw [List.append_assoc, name_escapeFirst hc.1.symm, name_flatMap_escapeNameChar hc.2 hr]

theorem head_escapeNameChar {c : Char} (hc : c ≠ '\x00') :
    ∃ x s, escapeNameChar c = x :: s ∧
      (isNameStart x = true ∨ Ascii.isDigit x = true ∧ x = c ∨ x = '-' ∧ c = '-' ∨
        x = '\\' ∧ ∀ r, startsNewline (s ++ r) = false) := by
  unfold escapeNameChar
  split
  next h =>
    refine ⟨c, [], rfl, ?_⟩
    simp only [Ascii.isAlphanumeric, Bool.or_eq_true, beq_iff_eq, decide_eq_true_eq] at h
    simp only [isNameStart, Bool.or_eq_true, beq_iff_eq, decide_eq_true_eq]
    grind
  · split
    next h =>
      simp only [isControl, Bool.or_eq_true, Bool.and_eq_true, decide_eq_true_eq, beq_iff_eq] at h
      obtain ⟨s, hs, -, hread⟩ := escape_hexEscape hc (by omega)
      exact ⟨'\\', s, hs, .inr (.inr (.inr ⟨rfl, fun r => (hread r).2⟩))⟩
    next h =>
      refine ⟨'\\', [c], rfl, .inr (.inr (.inr ⟨rfl, fun r => ?_⟩))⟩
      rw [List.singleton_append, startsNewline, Bool.eq_false_iff]
      exact fun hn => h (isControl_of_isNewline hn)

theorem head_escapeFirst {c : Char} (hc : c ≠ '\x00') (hhyphen : c ≠ '-') :
    ∃ x s, (if Ascii.isDigit c then hexEscape c else escapeNameChar c) = x :: s ∧
      (isNameStart x = true ∨ x = '\\' ∧ ∀ r, startsNewline (s ++ r) = false) := by
  split
  next hd =>
    obtain ⟨s, hs, -, hread⟩ := escape_hexEscape hc (lt_of_isDigit hd)
    exact ⟨'\\', s, hs, .inr ⟨rfl, fun r => (hread r).2⟩⟩
  next hd =>
    obtain ⟨x, s, hs, h | ⟨h, rfl⟩ | ⟨-, h⟩ | h⟩ := head_escapeNameChar hc
    · exact ⟨x, s, hs, .inl h⟩
    · exact absurd h hd
    · exact absurd h hhyphen
    · exact ⟨x, s, hs, .inr h⟩

/-- No escaped text starts as the end of a comment goes on. -/
theorem head_flatMap_escapeNameChar {cs r : List Char} (hcs : '\x00' ∉ cs)
    (hr : r.head? ≠ some '>') : (cs.flatMap escapeNameChar ++ r).head? ≠ some '>' := by
  cases cs with
  | nil => exact hr
  | cons c cs =>
    have hc : c ≠ '\x00' := fun h => hcs (h ▸ List.mem_cons_self)
    obtain ⟨x, s, hs, h⟩ := head_escapeNameChar hc
    rw [List.flatMap_cons, hs]
    rintro ⟨⟩
    rcases h with h | ⟨h, -⟩ | ⟨h, -⟩ | ⟨h, -⟩ <;> cases h

/-- What is written for a name starts as a name does. -/
theorem startsName_escapeIdent {cs : List Char} (hne : cs ≠ []) (hcs : '\x00' ∉ cs) :
    ∃ c s, escapeIdent cs = c :: s ∧ ∀ r, r.head? ≠ some '>' → StartsName c (s ++ r) := by
  unfold escapeIdent
  split
  · exact absurd rfl hne
  · exact ⟨'\\', ['-'], rfl, fun r _ => .inr (.inl ⟨rfl, rfl⟩)⟩
  · next s =>
    have hs : '\x00' ∉ s := by simpa using hcs
    refine ⟨'-', _, rfl, fun r hr => .inr (.inr ⟨rfl, '-', _, rfl, .inr (.inr ⟨rfl, ?_⟩)⟩)⟩
    exact head_flatMap_escapeNameChar hs hr
  · next c s hc =>
    have hnull : '\x00' ≠ c ∧ '\x00' ∉ s := by simpa using hcs
    obtain ⟨x, t, ht, hx⟩ := head_escapeFirst hnull.1.symm hc
    rw [ht]
    refine ⟨'-', _, rfl, fun r _ => .inr (.inr ⟨rfl, x, _, rfl, ?_⟩)⟩
    exact hx.imp_right fun h => .inl h.1
  · next c s hnil _ hother =>
    have hnull : '\x00' ≠ c ∧ '\x00' ∉ s := by simpa using hcs
    have hc : c ≠ '-' := by
      rintro rfl
      cases s with
      | nil => exact hnil rfl rfl
      | cons d s => exact hother d s rfl rfl
    obtain ⟨x, t, ht, hx⟩ := head_escapeFirst hnull.1.symm hc
    rw [ht]
    refine ⟨x, t ++ s.flatMap escapeNameChar, rfl, fun r _ => ?_⟩
    rw [List.append_assoc]
    exact hx.imp_right fun h => .inl ⟨h.1, h.2 _⟩

/-- No space, no equals sign and no digit is the first character of a name. -/
theorem head_escapeIdent {name : String} (h : IsName name) :
    ∃ c r, escapeIdent name.toList = c :: r ∧ isSpace c = false ∧ c ≠ '=' ∧
      Ascii.isDigit c = false := by
  obtain ⟨c, r, hcr, hstart⟩ := startsName_escapeIdent h.1 h.2
  refine ⟨c, r, hcr, ?_⟩
  rcases hstart [] nofun with hname | ⟨rfl, -⟩ | ⟨rfl, -⟩
  · have hother : ∀ x, isNameStart x = false → c ≠ x := by
      rintro x hx rfl
      simp [hname] at hx
    refine ⟨?_, hother _ rfl, isDigit_of_isNameStart hname⟩
    simp only [isSpace, isNewline, Bool.or_eq_false_iff, beq_eq_false_iff_ne]
    exact ⟨⟨hother _ rfl, hother _ rfl⟩, ⟨hother _ rfl, hother _ rfl⟩, hother _ rfl⟩
  · decide
  · decide

/-! ## Spelled lexemes -/

/-- The lexeme is read from its text if `rest` follows. -/
def Lexeme.Spelled (l : Lexeme) (rest : List Char) : Prop :=
  lexemes (l.text ++ rest) = l :: lexemes rest

theorem spelled_of_token {t : Token} {c : Char} {s rest : List Char} {complete : Bool}
    (h : token c (s ++ rest) = ⟨t, complete, rest⟩) :
    Lexeme.Spelled ⟨t, c :: s, complete⟩ rest := by
  have hlength : (s ++ rest).length + 1 - rest.length = (c :: s).length := by
    rw [List.length_append, List.length_cons]
    omega
  show lexemes (c :: (s ++ rest)) = _
  rw [lexemes, h]
  dsimp only
  rw [hlength, ← List.cons_append, List.take_left]

/-- The text does not go on with an identifier, and does not make a function of it. -/
def endsIdent (r : List Char) : Bool :=
  stopsName r && r.head? != some '(' && r.head? != some '>'

theorem spelled_ident {s : String} (hs : IsName s) {rest : List Char}
    (hrest : endsIdent rest = true) :
    Lexeme.Spelled ⟨.ident s, escapeIdent s.toList, true⟩ rest := by
  simp only [endsIdent, Bool.and_eq_true, bne_iff_ne] at hrest
  obtain ⟨⟨hstops, hparen⟩, harrow⟩ := hrest
  obtain ⟨c, r, hcr, hstart⟩ := startsName_escapeIdent hs.1 hs.2
  have hname := name_escapeIdent hs.2 hstops
  rw [hcr] at hname ⊢
  refine spelled_of_token ?_
  rw [token_of_startsName (hstart rest harrow), identToken, ← List.cons_append, hname]
  dsimp only
  split
  · simp at hparen
  · simp [text]

/-- A function that is none but by its name: `url` begins something else. -/
theorem spelled_function {s : String} (hs : IsName s)
    (hurl : s.toList.map Char.toLower ≠ ['u', 'r', 'l']) (rest : List Char) :
    Lexeme.Spelled ⟨.function s, escapeIdent s.toList ++ ['('], true⟩ rest := by
  obtain ⟨c, r, hcr, hstart⟩ := startsName_escapeIdent hs.1 hs.2
  have hname : name (escapeIdent s.toList ++ '(' :: rest) = ⟨s.toList, true, '(' :: rest⟩ :=
    name_escapeIdent hs.2 rfl
  rw [hcr] at hname
  rw [hcr, List.cons_append]
  refine spelled_of_token ?_
  rw [List.append_assoc, List.singleton_append, token_of_startsName (hstart _ (by simp)),
    identToken, ← List.cons_append, hname]
  simp [hurl, text]

theorem spelled_idHash {s : String} (hs : IsName s) {rest : List Char}
    (hrest : endsIdent rest = true) :
    Lexeme.Spelled ⟨.idHash s, '#' :: escapeIdent s.toList, true⟩ rest := by
  simp only [endsIdent, Bool.and_eq_true, bne_iff_ne] at hrest
  obtain ⟨⟨hstops, -⟩, harrow⟩ := hrest
  obtain ⟨c, r, hcr, hstart⟩ := startsName_escapeIdent hs.1 hs.2
  have hident : startsIdent (escapeIdent s.toList ++ rest) = true := by
    rw [hcr, List.cons_append]
    exact startsIdent_of_startsName (hstart rest harrow)
  refine spelled_of_token ?_
  have hhash : token '#' (escapeIdent s.toList ++ rest) =
      hashToken (escapeIdent s.toList ++ rest) := rfl
  rw [hhash, hashToken, if_pos hident, name_escapeIdent hs.2 hstops]
  simp [text]

/-! ### Strings -/

theorem quotedRest_escapeQuotedChar {c : Char} (hc : c ≠ '\x00') (r : List Char) :
    quotedRest '"' (escapeQuotedChar c ++ r) =
      ⟨(quotedRest '"' r).value.map (c :: ·), (quotedRest '"' r).complete,
        (quotedRest '"' r).rest⟩ := by
  have hescape : ∀ s, s ≠ [] → escape (s ++ r) = (c, r) → startsNewline (s ++ r) = false →
      quotedRest '"' ('\\' :: (s ++ r)) = ⟨(quotedRest '"' r).value.map (c :: ·),
        (quotedRest '"' r).complete, (quotedRest '"' r).rest⟩ := by
    intro s hs hread hnewline
    rw [quotedRest]
    simp [isNewline, hnewline, hs, hread]
  unfold escapeQuotedChar
  split
  next h =>
    subst h
    exact hescape ['"'] (by simp) rfl rfl
  split
  next h =>
    subst h
    exact hescape ['\\'] (by simp) rfl rfl
  split
  next h =>
    simp only [isControl, Bool.or_eq_true, Bool.and_eq_true, decide_eq_true_eq, beq_iff_eq] at h
    obtain ⟨s, hs, hne, hread⟩ := escape_hexEscape hc (by omega)
    rw [hs]
    exact hescape s hne (hread r).1 (hread r).2
  next hquote hbackslash hcontrol =>
    have hnewline : isNewline c = false := by
      rw [Bool.eq_false_iff]
      exact fun h => hcontrol (isControl_of_isNewline h)
    rw [List.singleton_append, quotedRest]
    simp [hquote, hbackslash, hnewline, hc]

theorem quotedRest_flatMap_escapeQuotedChar {cs : List Char} (hcs : '\x00' ∉ cs) (r : List Char) :
    quotedRest '"' (cs.flatMap escapeQuotedChar ++ '"' :: r) = ⟨some cs, true, r⟩ := by
  induction cs with
  | nil =>
    rw [List.flatMap_nil, List.nil_append, quotedRest, if_pos rfl]
  | cons c cs ih =>
    have hc : c ≠ '\x00' := fun h => hcs (h ▸ List.mem_cons_self)
    have ih := ih fun h => hcs (List.mem_cons_of_mem c h)
    rw [List.flatMap_cons, List.append_assoc, quotedRest_escapeQuotedChar hc, ih]
    rfl

theorem spelled_quoted {s : String} (hs : '\x00' ∉ s.toList) (rest : List Char) :
    Lexeme.Spelled ⟨.quoted s, '"' :: (s.toList.flatMap escapeQuotedChar ++ ['"']), true⟩ rest := by
  refine spelled_of_token ?_
  have htoken : ∀ r, token '"' r = ⟨(quotedRest '"' r).value.elim .badString fun v =>
      .quoted (text v), (quotedRest '"' r).complete, (quotedRest '"' r).rest⟩ := fun _ => rfl
  rw [List.append_assoc, List.singleton_append, htoken, quotedRest_flatMap_escapeQuotedChar hs]
  simp [text]

/-! ### Numbers -/

/-- The text does not go on with the number before it. -/
def endsNumeral (r : List Char) : Bool :=
  r.head?.all fun c => !Ascii.isDigit c && c != '.' && c != 'e' && c != 'E'

theorem isDigit_of_mem_toDigits {n : Nat} {c : Char} (h : c ∈ Nat.toDigits 10 n) :
    Ascii.isDigit c = true := by
  have h := Nat.isDigit_of_mem_toDigits (by decide) (by decide) h
  simpa [Char.isDigit, Ascii.isDigit, Char.le_def] using h

theorem decimal_toDigits (n : Nat) : decimal 0 (Nat.toDigits 10 n) = n := by
  have h := Nat.ofDigitChars_ten_toDigits (n := n)
  rwa [Nat.ofDigitChars_eq_foldl] at h

/-- Digits before what is none are cut off whole. -/
theorem span_digits {cs r : List Char} (hcs : ∀ c ∈ cs, Ascii.isDigit c = true)
    (hr : startsDigit r = false) : (cs ++ r).takeWhile Ascii.isDigit = cs ∧
      (cs ++ r).dropWhile Ascii.isDigit = r := by
  rw [List.takeWhile_append_of_pos hcs, List.dropWhile_append_of_pos hcs]
  cases r with
  | nil => exact ⟨List.append_nil _, rfl⟩
  | cons c r =>
    have hc : Ascii.isDigit c = false := hr
    simp [hc]

/-- Digits after a sign, or without one, and those of the fraction behind them are read as one
number, if no exponent follows. -/
theorem numeral_digits {s whole tail digits r : List Char} {minus : Option Bool}
    (hs : sign s = (minus, whole ++ tail)) (hwhole : ∀ c ∈ whole, Ascii.isDigit c = true)
    (htail : startsDigit tail = false) (hfraction : fraction tail = (digits, r))
    (hexponent : exponent r = (none, r)) :
    let n : Int := decimal (decimal 0 whole) digits
    numeral s = (⟨minus.isSome, if minus = some true then -n else n, -digits.length,
      digits.isEmpty⟩, r) := by
  obtain ⟨htake, hdrop⟩ := span_digits hwhole htail
  unfold numeral
  rw [hs]
  dsimp only
  rw [htake, hdrop, hfraction, hexponent]
  simp

theorem of_endsNumeral {r : List Char} (h : endsNumeral r = true) :
    startsDigit r = false ∧ fraction r = ([], r) ∧ exponent r = (none, r) := by
  cases r with
  | nil => exact ⟨rfl, rfl, rfl⟩
  | cons c r =>
    simp only [endsNumeral, List.head?_cons, Option.all_some, Bool.and_eq_true, bne_iff_ne,
      Bool.not_eq_true'] at h
    obtain ⟨⟨⟨hdigit, hpoint⟩, he⟩, hE⟩ := h
    refine ⟨hdigit, ?_, by simp [exponent, he, hE]⟩
    unfold fraction
    split
    · next h => exact absurd (List.cons.inj h).1 hpoint
    · rfl

/-- Digits after a sign, or without one, are read as their number. -/
theorem numeral_toDigits {s r : List Char} {minus : Option Bool} {n : Nat}
    (hs : sign s = (minus, Nat.toDigits 10 n ++ r)) (hr : endsNumeral r = true) :
    numeral s = (⟨minus.isSome, if minus = some true then -n else n, 0, true⟩, r) := by
  have hdigits : ∀ c ∈ Nat.toDigits 10 n, Ascii.isDigit c = true := fun _ => isDigit_of_mem_toDigits
  obtain ⟨hstarts, hfraction, hexponent⟩ := of_endsNumeral hr
  have hnumeral := numeral_digits hs hdigits hstarts hfraction hexponent
  rwa [decimal_toDigits] at hnumeral

/-- The first digit of a text is no sign. -/
theorem sign_of_startsDigit {s : List Char} (h : startsDigit s = true) : sign s = (none, s) := by
  unfold sign
  split
  · cases h
  · cases h
  · rfl

/-- A text that starts with a digit starts with a number. -/
theorem startsNumber_of_startsDigit {s : List Char} (h : startsDigit s = true) :
    startsNumber s = true := by
  unfold startsNumber
  rw [sign_of_startsDigit h]
  split
  next hs =>
    dsimp only at hs
    subst hs
    cases h
  · exact h

/-- Digits start with one, which is no sign. -/
theorem startsDigit_toDigits (n : Nat) (r : List Char) :
    sign (Nat.toDigits 10 n ++ r) = (none, Nat.toDigits 10 n ++ r) ∧
      startsNumber (Nat.toDigits 10 n ++ r) = true := by
  have hstarts : startsDigit (Nat.toDigits 10 n ++ r) = true := by
    cases hdigits : Nat.toDigits 10 n with
    | nil => exact absurd hdigits Nat.toDigits_ne_nil
    | cons c s =>
      have hc : c ∈ Nat.toDigits 10 n := hdigits ▸ List.mem_cons_self
      exact isDigit_of_mem_toDigits hc
  exact ⟨sign_of_startsDigit hstarts, startsNumber_of_startsDigit hstarts⟩

/-- An integer with its digits, and with a sign if it is negative. -/
theorem toList_toString_int (n : Int) : (toString n).toList =
    if n < 0 then '-' :: Nat.toDigits 10 n.natAbs else Nat.toDigits 10 n.natAbs := by
  rw [Int.toString_eq_repr, Int.repr_eq_if]
  by_cases hn : n < 0
  · have hnat : (-n).toNat = n.natAbs := by omega
    rw [if_pos hn, if_neg (by omega), hnat]
    simp [Nat.toList_repr]
  · have hnat : n.toNat = n.natAbs := by omega
    rw [if_neg hn, if_pos (by omega), hnat, Nat.toList_repr]

theorem toList_toString_int_ne_nil (n : Int) : (toString n).toList ≠ [] := by
  rw [toList_toString_int]
  split
  · exact List.cons_ne_nil _ _
  · exact Nat.toDigits_ne_nil

/-- The numeral that an integer is written as. -/
def Numeral.ofInt (signed : Bool) (n : Int) : Numeral :=
  ⟨signed, n, 0, true⟩

theorem numeral_toString {n : Int} {r : List Char} (hr : endsNumeral r = true) :
    numeral ((toString n).toList ++ r) = (.ofInt (n < 0) n, r) ∧
      startsNumber ((toString n).toList ++ r) = true := by
  rw [toList_toString_int]
  have hdigits := startsDigit_toDigits n.natAbs r
  split
  next hn =>
    have hsign : sign ('-' :: Nat.toDigits 10 n.natAbs ++ r) =
        (some true, Nat.toDigits 10 n.natAbs ++ r) := rfl
    refine ⟨?_, ?_⟩
    · have hvalue : -(n.natAbs : Int) = n := by omega
      rw [numeral_toDigits hsign hr, if_pos rfl, hvalue]
      simp [Numeral.ofInt, hn]
    · have hstart := hdigits.2
      unfold startsNumber at hstart ⊢
      rw [hdigits.1] at hstart
      rw [hsign]
      exact hstart
  next hn =>
    refine ⟨?_, hdigits.2⟩
    have hvalue : (n.natAbs : Int) = n := by omega
    rw [numeral_toDigits hdigits.1 hr, if_neg (by simp), hvalue]
    simp [Numeral.ofInt, hn]

/-- A number with its sign in front. -/
theorem numeral_plus {n : Nat} {r : List Char} (hr : endsNumeral r = true) :
    numeral ('+' :: Nat.toDigits 10 n ++ r) = (.ofInt true n, r) ∧
      startsNumber ('+' :: Nat.toDigits 10 n ++ r) = true := by
  have hsign : sign ('+' :: Nat.toDigits 10 n ++ r) = (some false, Nat.toDigits 10 n ++ r) := rfl
  refine ⟨numeral_toDigits hsign hr, ?_⟩
  have hdigits := startsDigit_toDigits n r
  have hstart := hdigits.2
  unfold startsNumber at hstart ⊢
  rw [hdigits.1] at hstart
  rw [hsign]
  exact hstart

/-- The text does not go on with a number, nor gives it a unit. -/
def endsNumber (r : List Char) : Bool :=
  endsNumeral r && r.head? != some '%' && !startsIdent r

theorem isSpace_of_startsNumber {c : Char} {r : List Char} (h : startsNumber (c :: r) = true) :
    isSpace c = false := by
  rw [Bool.eq_false_iff]
  intro hc
  simp only [isSpace, isNewline, Bool.or_eq_true, beq_iff_eq] at hc
  rcases hc with (rfl | rfl) | (rfl | rfl) | rfl <;> cases h

theorem spelled_of_numericToken {cs rest : List Char} {t : Token} (hne : cs ≠ [])
    (hstart : startsNumber (cs ++ rest) = true)
    (ht : numericToken (cs ++ rest) = ⟨t, true, rest⟩) : Lexeme.Spelled ⟨t, cs, true⟩ rest := by
  cases cs with
  | nil => exact absurd rfl hne
  | cons c s =>
    rw [List.cons_append] at hstart ht
    refine spelled_of_token ?_
    unfold token
    rw [if_neg (by simp [isSpace_of_startsNumber hstart]), if_pos hstart, ht]

/-- A number without a unit. -/
theorem numericToken_of_bare {cs rest : List Char} {value : Numeral}
    (hvalue : numeral (cs ++ rest) = (value, rest)) (hpercent : rest.head? ≠ some '%')
    (hident : startsIdent rest = false) :
    numericToken (cs ++ rest) = ⟨.number value, true, rest⟩ := by
  unfold numericToken
  rw [hvalue]
  dsimp only
  split
  · next h => exact absurd rfl hpercent
  · rw [if_neg (by simp [hident])]

theorem numericToken_of_endsNumber {cs rest : List Char} {value : Numeral}
    (hvalue : numeral (cs ++ rest) = (value, rest)) (hrest : endsNumber rest = true) :
    numericToken (cs ++ rest) = ⟨.number value, true, rest⟩ := by
  simp only [endsNumber, Bool.and_eq_true, bne_iff_ne, Bool.not_eq_true'] at hrest
  exact numericToken_of_bare hvalue hrest.1.2 hrest.2

theorem spelled_number (n : Int) {rest : List Char} (hrest : endsNumber rest = true) :
    Lexeme.Spelled ⟨.number (.ofInt (n < 0) n), (toString n).toList, true⟩ rest := by
  have hends := hrest
  simp only [endsNumber, Bool.and_eq_true] at hends
  obtain ⟨hvalue, hstart⟩ := numeral_toString (n := n) hends.1.1
  exact spelled_of_numericToken (toList_toString_int_ne_nil n) hstart
    (numericToken_of_endsNumber hvalue hrest)

theorem spelled_plus_number (n : Nat) {rest : List Char} (hrest : endsNumber rest = true) :
    Lexeme.Spelled ⟨.number (.ofInt true n), '+' :: Nat.toDigits 10 n, true⟩ rest := by
  have hends := hrest
  simp only [endsNumber, Bool.and_eq_true] at hends
  obtain ⟨hvalue, hstart⟩ := numeral_plus (n := n) hends.1.1
  exact spelled_of_numericToken (List.cons_ne_nil _ _) hstart
    (numericToken_of_endsNumber hvalue hrest)

theorem spelled_percentage {cs rest : List Char} {value : Numeral}
    (hstart : startsNumber (cs ++ '%' :: rest) = true)
    (hvalue : numeral (cs ++ '%' :: rest) = (value, '%' :: rest)) :
    Lexeme.Spelled ⟨.percentage value, cs ++ ['%'], true⟩ rest := by
  refine spelled_of_numericToken (by simp) ?_ ?_
  · rwa [List.append_assoc]
  · rw [List.append_assoc]
    unfold numericToken
    rw [List.singleton_append, hvalue]
    rfl

/-- A number that is followed by a name has it as its unit. -/
theorem spelled_unit {cs rest : List Char} {value : Numeral} {unit : String} (hunit : IsName unit)
    (hne : cs ≠ []) (hstart : startsNumber (cs ++ (escapeIdent unit.toList ++ rest)) = true)
    (hvalue : numeral (cs ++ (escapeIdent unit.toList ++ rest)) =
      (value, escapeIdent unit.toList ++ rest))
    (hrest : endsIdent rest = true) :
    Lexeme.Spelled ⟨.dimension value unit, cs ++ escapeIdent unit.toList, true⟩ rest := by
  simp only [endsIdent, Bool.and_eq_true, bne_iff_ne] at hrest
  obtain ⟨⟨hstops, -⟩, harrow⟩ := hrest
  obtain ⟨c, r, hcr, hname⟩ := startsName_escapeIdent hunit.1 hunit.2
  have hident : startsIdent (escapeIdent unit.toList ++ rest) = true := by
    rw [hcr, List.cons_append]
    exact startsIdent_of_startsName (hname rest harrow)
  refine spelled_of_numericToken ?_ ?_ ?_
  · exact fun h => hne (List.append_eq_nil_iff.mp h).1
  · rwa [List.append_assoc]
  · rw [List.append_assoc]
    unfold numericToken
    rw [hvalue]
    dsimp only
    split
    · next h =>
      rw [h] at hident
      cases hident
    · rw [if_pos hident, name_escapeIdent hunit.2 hstops]
      simp [text]

/-- A number and its unit, which must not read as an exponent. -/
theorem spelled_dimension (n : Int) {unit : String} (hunit : IsName unit) {rest : List Char}
    (hends : endsNumeral (escapeIdent unit.toList ++ rest) = true)
    (hrest : endsIdent rest = true) :
    Lexeme.Spelled ⟨.dimension (.ofInt (n < 0) n) unit,
      (toString n).toList ++ escapeIdent unit.toList, true⟩ rest := by
  obtain ⟨hvalue, hstart⟩ := numeral_toString (n := n) hends
  exact spelled_unit hunit (toList_toString_int_ne_nil n) hstart hvalue hrest

/-! ### Punctuation -/

theorem spelled_whitespace {rest : List Char} (hrest : rest.head?.all (!isSpace ·) = true) :
    Lexeme.Spelled ⟨.whitespace, [' '], true⟩ rest := by
  refine spelled_of_token ?_
  have htoken : ∀ r, token ' ' r = ⟨.whitespace, true, r.dropWhile isSpace⟩ := fun _ => rfl
  rw [List.nil_append, htoken]
  cases rest with
  | nil => rfl
  | cons c r =>
    have hc : isSpace c = false := by simpa using hrest
    rw [List.dropWhile_cons, hc]
    rfl

/-- The text of a token that is read alike whatever comes next. -/
def Token.fixedText? : Token → Option (List Char)
  | .colon => some [':']
  | .semicolon => some [';']
  | .comma => some [',']
  | .parenClose => some [')']
  | .squareOpen => some ['[']
  | .squareClose => some [']']
  | .curlyOpen => some ['\x7b']
  | .curlyClose => some ['\x7d']
  | .includeMatch => some ['~', '=']
  | .dashMatch => some ['|', '=']
  | .prefixMatch => some ['^', '=']
  | .suffixMatch => some ['$', '=']
  | .substringMatch => some ['*', '=']
  | .delim '=' => some ['=']
  | .delim '>' => some ['>']
  | .delim '!' => some ['!']
  | .delim '%' => some ['%']
  | _ => none

theorem spelled_fixed {t : Token} {cs : List Char} (h : t.fixedText? = some cs)
    (rest : List Char) : Lexeme.Spelled ⟨t, cs, true⟩ rest := by
  unfold Token.fixedText? at h
  split at h <;> cases h <;> exact spelled_of_token rfl

section Punctuation

variable {rest : List Char}

theorem spelled_dot (hrest : startsDigit rest = false) :
    Lexeme.Spelled ⟨.delim '.', ['.'], true⟩ rest := by
  refine spelled_of_token ?_
  rw [List.nil_append, token]
  have hnumber : startsNumber ('.' :: rest) = false := hrest
  rw [hnumber]
  rfl

/-- A character that only an equals sign would make another token of. -/
theorem spelled_delim {c : Char} (hc : c = '*' ∨ c = '|' ∨ c = '~')
    (hrest : rest.head? ≠ some '=') : Lexeme.Spelled ⟨.delim c, [c], true⟩ rest := by
  refine spelled_of_token ?_
  rw [List.nil_append]
  cases rest with
  | nil => rcases hc with rfl | rfl | rfl <;> rfl
  | cons d r =>
    have hd : d ≠ '=' := fun h => hrest (h ▸ rfl)
    have htoken : token c (d :: r) = punctuation c (d :: r) := by
      rcases hc with rfl | rfl | rfl <;> rfl
    rw [htoken]
    rcases hc with rfl | rfl | rfl <;> simp [punctuation, hd]

theorem spelled_plus (hrest : rest.head? = some ' ') :
    Lexeme.Spelled ⟨.delim '+', ['+'], true⟩ rest := by
  refine spelled_of_token ?_
  cases rest with
  | nil => cases hrest
  | cons d r =>
    obtain rfl := Option.some.inj hrest
    rfl

end Punctuation

end StyleTree.Css
