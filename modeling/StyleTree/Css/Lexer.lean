import StyleTree.Text.Ascii
import StyleTree.Css.Token

/-!
# Reading tokens

Cuts a text into lexemes. Nothing is lost and nothing is rejected: the texts of the lexemes join
to the text that was read, and a fault becomes a token of its own.
-/

namespace StyleTree.Css

/-! ## Character classes -/

def isNewline (c : Char) : Bool :=
  c == '\n' || c == '\r' || c == '\x0c'

def isSpace (c : Char) : Bool :=
  c == ' ' || c == '\t' || isNewline c

/-- The character may start a name. A null character may, and reads as a replacement character. -/
def isNameStart (c : Char) : Bool :=
  Ascii.isAlpha c || c == '_' || c == '\x00' || c.toNat ≥ 0x80

def isNameChar (c : Char) : Bool :=
  isNameStart c || Ascii.isDigit c || c == '-'

/-- Control characters that an unquoted URL cannot hold. -/
def isNonPrintable (c : Char) : Bool :=
  let n := c.toNat
  (1 ≤ n && n ≤ 8) || n == 0x0b || (0x0e ≤ n && n ≤ 0x1f) || n == 0x7f

def startsNewline : List Char → Bool
  | c :: _ => isNewline c
  | [] => false

def startsDigit : List Char → Bool
  | c :: _ => Ascii.isDigit c
  | [] => false

/-- The text starts with an identifier. After a hyphen a backslash always counts, even one that
cannot start an escape. -/
def startsIdent : List Char → Bool
  | '-' :: c :: _ => isNameStart c || c == '-' || c == '\\'
  | '\\' :: r => !startsNewline r
  | c :: _ => isNameStart c
  | [] => false

/-! ## Escapes -/

/-- Up to `n` hexadecimal digits, appended to the value `acc`. -/
def hexDigits : Nat → Nat → List Char → Nat × List Char
  | n + 1, acc, c :: r =>
    match Ascii.hexDigit? c with
    | some d => hexDigits n (16 * acc + d) r
    | none => (acc, c :: r)
  | _, acc, s => (acc, s)

/-- Drops the one white space that may end a numeric escape. -/
def dropOneSpace : List Char → List Char
  | '\r' :: '\n' :: r => r
  | c :: r => if isSpace c then r else c :: r
  | [] => []

/-- The character of a code point; a replacement character for null, for surrogates and for
numbers beyond the last code point. -/
def scalar (n : Nat) : Char :=
  if n = 0 ∨ (0xd800 ≤ n ∧ n ≤ 0xdfff) ∨ 0x10ffff < n then '\ufffd' else Char.ofNat n

/-- The character that an escape stands for and the text after it. The argument is the text after
the backslash; at the end of the text an escape is a replacement character. -/
def escape : List Char → Char × List Char
  | [] => ('\ufffd', [])
  | c :: r =>
    match Ascii.hexDigit? c with
    | some d =>
      let (n, s) := hexDigits 5 d r
      (scalar n, dropOneSpace s)
    | none => (if c = '\x00' then '\ufffd' else c, r)

theorem hexDigits_length_le (n acc : Nat) (s : List Char) :
    (hexDigits n acc s).2.length ≤ s.length := by
  induction n generalizing acc s with
  | zero => simp [hexDigits]
  | succ n ih =>
    cases s with
    | nil => simp [hexDigits]
    | cons c r =>
      rw [hexDigits]
      split
      · exact Nat.le_succ_of_le (ih _ _)
      · exact Nat.le_refl _

theorem dropOneSpace_length_le (s : List Char) : (dropOneSpace s).length ≤ s.length := by
  fun_cases dropOneSpace s <;> grind

theorem escape_length_le (s : List Char) : (escape s).2.length ≤ s.length := by
  cases s with
  | nil => simp [escape]
  | cons c r =>
    rw [escape]
    split
    · rename_i d _
      have h₁ := hexDigits_length_le 5 d r
      have h₂ := dropOneSpace_length_le (hexDigits 5 d r).2
      simp only [List.length_cons]
      omega
    · simp

/-! ## Parts of tokens -/

/-- What a reader found at the start of a text. -/
structure Reading (α : Type) where
  value : α
  /-- The text went on where the reading had to: it was not cut off. -/
  complete : Bool
  rest : List Char

/-- The longest name at the start of the text; possibly empty. -/
def name : List Char → Reading (List Char)
  | [] => ⟨[], true, []⟩
  | c :: r =>
    if c = '\\' then
      if startsNewline r then ⟨[], true, c :: r⟩
      else
        let e := escape r
        let more := name e.2
        ⟨e.1 :: more.value, more.complete && !r.isEmpty, more.rest⟩
    else if isNameChar c then
      let more := name r
      ⟨(if c = '\x00' then '\ufffd' else c) :: more.value, more.complete, more.rest⟩
    else ⟨[], true, c :: r⟩
termination_by s => s.length
decreasing_by
  · have := escape_length_le r
    simp only [List.length_cons]
    omega
  · simp

/-- Drops the line break at the start of the text. -/
def dropNewline : List Char → List Char
  | '\r' :: '\n' :: r => r
  | _ :: r => r
  | [] => []

theorem dropNewline_length_le (s : List Char) : (dropNewline s).length ≤ s.length := by
  fun_cases dropNewline s <;> grind

/-- The rest of a string after its opening quote. The value is `none` if a line break cuts the
string short; the line break is left. -/
def quotedRest (quote : Char) : List Char → Reading (Option (List Char))
  | [] => ⟨some [], false, []⟩
  | c :: r =>
    if c = quote then ⟨some [], true, r⟩
    else if isNewline c then ⟨none, true, c :: r⟩
    else if c = '\\' then
      if startsNewline r then quotedRest quote (dropNewline r)
      else if r.isEmpty then ⟨some [], false, []⟩
      else
        let e := escape r
        let more := quotedRest quote e.2
        ⟨more.value.map (e.1 :: ·), more.complete, more.rest⟩
    else
      let more := quotedRest quote r
      ⟨more.value.map ((if c = '\x00' then '\ufffd' else c) :: ·), more.complete, more.rest⟩
termination_by s => s.length
decreasing_by
  · have := dropNewline_length_le r
    simp only [List.length_cons]
    omega
  · have := escape_length_le r
    simp only [List.length_cons]
    omega
  · simp

/-- The rest of a comment after its opening. -/
def commentRest : List Char → Reading Unit
  | '*' :: '/' :: r => ⟨(), true, r⟩
  | _ :: r => commentRest r
  | [] => ⟨(), false, []⟩

/-- The rest of a malformed URL, up to a parenthesis that no backslash precedes. -/
def badUrlRest : List Char → Reading (Option (List Char))
  | [] => ⟨none, false, []⟩
  | ')' :: r => ⟨none, true, r⟩
  | '\\' :: ')' :: r => badUrlRest r
  | '\\' :: '\\' :: r => badUrlRest r
  | _ :: r => badUrlRest r

/-- The end of a URL after its value: white space and the parenthesis have to follow. -/
def urlEnd (value : List Char) (s : List Char) : Reading (Option (List Char)) :=
  match s.dropWhile isSpace with
  | [] => ⟨some value, false, []⟩
  | ')' :: r => ⟨some value, true, r⟩
  | _ :: r => badUrlRest r

/-- The rest of an unquoted URL after its leading white space; the value `none` marks a malformed
one, which is read to its end all the same. `seen` is the value so far, in reverse. -/
def urlRest (seen : List Char) : List Char → Reading (Option (List Char))
  | [] => ⟨some seen.reverse, false, []⟩
  | c :: r =>
    if c = ')' then ⟨some seen.reverse, true, r⟩
    else if isSpace c then urlEnd seen.reverse (c :: r)
    else if isNonPrintable c || c == '"' || c == '\'' || c == '(' then badUrlRest r
    else if c = '\\' then
      if startsNewline r then badUrlRest r
      else
        let e := escape r
        urlRest (e.1 :: seen) e.2
    else urlRest ((if c = '\x00' then '\ufffd' else c) :: seen) r
termination_by s => s.length
decreasing_by
  · have := escape_length_le r
    simp only [List.length_cons]
    omega
  · simp

/-! ## Numbers -/

/-- The value of decimal digits, appended to `acc`. -/
def decimal (acc : Nat) (digits : List Char) : Nat :=
  digits.foldl (fun n c => 10 * n + (c.toNat - '0'.toNat)) acc

/-- The sign at the start of the text, if one is written: whether it is a minus. -/
def sign : List Char → Option Bool × List Char
  | '+' :: r => (some false, r)
  | '-' :: r => (some true, r)
  | s => (none, s)

/-- The digits of a fraction, and the rest: a point counts only if a digit follows. -/
def fraction : List Char → List Char × List Char
  | '.' :: r =>
    if startsDigit r then (r.takeWhile Ascii.isDigit, r.dropWhile Ascii.isDigit)
    else ([], '.' :: r)
  | s => ([], s)

/-- The value of an exponent part, and the rest: the letter counts only if a digit follows, a sign
between them allowed. -/
def exponent : List Char → Option Int × List Char
  | c :: r =>
    if c == 'e' || c == 'E' then
      let s := sign r
      if startsDigit s.2 then
        let n : Int := decimal 0 (s.2.takeWhile Ascii.isDigit)
        (some (if s.1 = some true then -n else n), s.2.dropWhile Ascii.isDigit)
      else (none, c :: r)
    else (none, c :: r)
  | [] => (none, [])

/-- The number at the start of the text. -/
def numeral (s : List Char) : Numeral × List Char :=
  let minus := (sign s).1
  let digits := (sign s).2
  let part := fraction (digits.dropWhile Ascii.isDigit)
  let power := exponent part.2
  let n : Int := decimal (decimal 0 (digits.takeWhile Ascii.isDigit)) part.1
  ({ signed := minus.isSome
     mantissa := if minus = some true then -n else n
     exponent := power.1.getD 0 - part.1.length
     integral := part.1.isEmpty && power.1.isNone }, power.2)

/-- The text starts with a number: digits, or a point and digits, after an optional sign. -/
def startsNumber (s : List Char) : Bool :=
  match (sign s).2 with
  | '.' :: r => startsDigit r
  | r => startsDigit r

/-! ## Tokens -/

def text (cs : List Char) : String :=
  String.ofList cs

/-- A number with the unit or percent sign that follows it. -/
def numericToken (s : List Char) : Reading Token :=
  let n := numeral s
  match n.2 with
  | '%' :: r => ⟨.percentage n.1, true, r⟩
  | r =>
    if startsIdent r then
      let unit := name r
      ⟨.dimension n.1 (text unit.value), unit.complete, unit.rest⟩
    else ⟨.number n.1, true, r⟩

/-- A name, or the function or URL that it begins. `url(` begins a URL unless a quote follows. -/
def identToken (s : List Char) : Reading Token :=
  let n := name s
  match n.rest with
  | '(' :: r =>
    if n.value.map Char.toLower == ['u', 'r', 'l'] then
      match r.dropWhile isSpace with
      | '"' :: _ | '\'' :: _ => ⟨.function (text n.value), true, r⟩
      | t =>
        let url := urlRest [] t
        ⟨url.value.elim .badUrl fun v => .url (text v), url.complete, url.rest⟩
    else ⟨.function (text n.value), true, r⟩
  | _ => ⟨.ident (text n.value), n.complete, n.rest⟩

/-- The token after a `#`. -/
def hashToken (s : List Char) : Reading Token :=
  let n := name s
  if startsIdent s then ⟨.idHash (text n.value), n.complete, n.rest⟩
  else if startsDigit s || s.head? == some '-' then ⟨.hash (text n.value), n.complete, n.rest⟩
  else ⟨.delim '#', true, s⟩

/-- The token of a punctuation character `c` before the text `r`. -/
def punctuation (c : Char) (r : List Char) : Reading Token :=
  match c, r with
  | '$', '=' :: s => ⟨.suffixMatch, true, s⟩
  | '*', '=' :: s => ⟨.substringMatch, true, s⟩
  | '^', '=' :: s => ⟨.prefixMatch, true, s⟩
  | '|', '=' :: s => ⟨.dashMatch, true, s⟩
  | '~', '=' :: s => ⟨.includeMatch, true, s⟩
  | '(', r => ⟨.parenOpen, true, r⟩
  | ')', r => ⟨.parenClose, true, r⟩
  | '[', r => ⟨.squareOpen, true, r⟩
  | ']', r => ⟨.squareClose, true, r⟩
  | '\x7b', r => ⟨.curlyOpen, true, r⟩
  | '\x7d', r => ⟨.curlyClose, true, r⟩
  | ',', r => ⟨.comma, true, r⟩
  | ':', r => ⟨.colon, true, r⟩
  | ';', r => ⟨.semicolon, true, r⟩
  | '<', '!' :: '-' :: '-' :: s => ⟨.commentOpen, true, s⟩
  | '-', '-' :: '>' :: s => ⟨.commentClose, true, s⟩
  | '/', '*' :: s =>
    let comment := commentRest s
    ⟨.comment, comment.complete, comment.rest⟩
  | c, r => ⟨.delim c, true, r⟩

/-- The token at the start of the text `c :: r`. -/
def token (c : Char) (r : List Char) : Reading Token :=
  if isSpace c then ⟨.whitespace, true, r.dropWhile isSpace⟩
  else if startsNumber (c :: r) then numericToken (c :: r)
  else if c = '"' ∨ c = '\'' then
    let string := quotedRest c r
    ⟨string.value.elim .badString fun v => .quoted (text v), string.complete, string.rest⟩
  else if c = '#' then hashToken r
  else if c = '@' ∧ startsIdent r then
    let n := name r
    ⟨.atKeyword (text n.value), n.complete, n.rest⟩
  else if startsIdent (c :: r) ∧ ¬(c = '-' ∧ r.take 2 = ['-', '>']) then identToken (c :: r)
  else punctuation c r

/-! ## Readers leave a suffix -/

theorem hexDigits_suffix (n acc : Nat) (s : List Char) : (hexDigits n acc s).2 <:+ s := by
  induction n generalizing acc s with
  | zero => simp [hexDigits]
  | succ n ih =>
    cases s with
    | nil => simp [hexDigits]
    | cons c r =>
      rw [hexDigits]
      split
      · exact (ih _ _).trans (List.suffix_cons _ _)
      · exact List.suffix_refl _

theorem dropOneSpace_suffix (s : List Char) : dropOneSpace s <:+ s := by
  fun_cases dropOneSpace s
  · exact (List.suffix_cons _ _).trans (List.suffix_cons _ _)
  · exact List.suffix_cons _ _
  · exact List.suffix_refl _
  · exact List.suffix_refl _

theorem escape_suffix (s : List Char) : (escape s).2 <:+ s := by
  cases s with
  | nil => simp [escape]
  | cons c r =>
    rw [escape]
    split
    · exact ((dropOneSpace_suffix _).trans (hexDigits_suffix _ _ _)).trans (List.suffix_cons _ _)
    · exact List.suffix_cons _ _

theorem dropNewline_suffix (s : List Char) : dropNewline s <:+ s := by
  fun_cases dropNewline s
  · exact (List.suffix_cons _ _).trans (List.suffix_cons _ _)
  · exact List.suffix_cons _ _
  · exact List.suffix_refl _

theorem name_suffix (s : List Char) : (name s).rest <:+ s := by
  fun_induction name s with
  | case1 => exact List.suffix_refl _
  | case2 => exact List.suffix_refl _
  | case3 r =>
    rename_i ih
    exact (ih.trans (escape_suffix r)).trans (List.suffix_cons _ _)
  | case4 c r =>
    rename_i ih
    exact ih.trans (List.suffix_cons _ _)
  | case5 => exact List.suffix_refl _

theorem quotedRest_suffix (quote : Char) (s : List Char) : (quotedRest quote s).rest <:+ s := by
  fun_induction quotedRest quote s with
  | case1 => exact List.suffix_refl _
  | case2 => exact List.suffix_cons _ _
  | case3 => exact List.suffix_refl _
  | case4 r _ _ _ ih => exact (ih.trans (dropNewline_suffix r)).trans (List.suffix_cons _ _)
  | case5 => exact List.nil_suffix
  | case6 r =>
    rename_i ih
    exact (ih.trans (escape_suffix r)).trans (List.suffix_cons _ _)
  | case7 c r =>
    rename_i ih
    exact ih.trans (List.suffix_cons _ _)

theorem commentRest_suffix (s : List Char) : (commentRest s).rest <:+ s := by
  fun_induction commentRest s with
  | case1 => exact (List.suffix_cons _ _).trans (List.suffix_cons _ _)
  | case2 _ _ _ ih => exact ih.trans (List.suffix_cons _ _)
  | case3 => exact List.suffix_refl _

theorem badUrlRest_suffix (s : List Char) : (badUrlRest s).rest <:+ s := by
  fun_induction badUrlRest s with
  | case1 => exact List.suffix_refl _
  | case2 => exact List.suffix_cons _ _
  | case3 _ ih => exact (ih.trans (List.suffix_cons _ _)).trans (List.suffix_cons _ _)
  | case4 _ ih => exact (ih.trans (List.suffix_cons _ _)).trans (List.suffix_cons _ _)
  | case5 _ _ _ _ _ ih => exact ih.trans (List.suffix_cons _ _)

theorem urlEnd_suffix (value s : List Char) : (urlEnd value s).rest <:+ s := by
  have h := List.dropWhile_suffix isSpace (l := s)
  rw [urlEnd]
  split
  · exact List.nil_suffix
  · rename_i r e
    exact (List.suffix_cons _ _).trans (e ▸ h)
  · rename_i c r _ e
    exact ((badUrlRest_suffix r).trans (List.suffix_cons c r)).trans (e ▸ h)

theorem urlRest_suffix (seen s : List Char) : (urlRest seen s).rest <:+ s := by
  fun_induction urlRest seen s with
  | case1 => exact List.suffix_refl _
  | case2 => exact List.suffix_cons _ _
  | case3 => exact urlEnd_suffix _ _
  | case4 => exact (badUrlRest_suffix _).trans (List.suffix_cons _ _)
  | case5 => exact (badUrlRest_suffix _).trans (List.suffix_cons _ _)
  | case6 _ r _ _ _ _ e ih => exact (ih.trans (escape_suffix r)).trans (List.suffix_cons _ _)
  | case7 _ _ _ _ _ _ _ ih => exact ih.trans (List.suffix_cons _ _)

theorem fraction_suffix (s : List Char) : (fraction s).2 <:+ s := by
  fun_cases fraction s
  · exact (List.dropWhile_suffix _).trans (List.suffix_cons _ _)
  · exact List.suffix_refl _
  · exact List.suffix_refl _

theorem sign_suffix (s : List Char) : (sign s).2 <:+ s := by
  fun_cases sign s
  · exact List.suffix_cons _ _
  · exact List.suffix_cons _ _
  · exact List.suffix_refl _

theorem exponent_suffix (s : List Char) : (exponent s).2 <:+ s := by
  cases s with
  | nil => simp [exponent]
  | cons c r =>
    rw [exponent]
    split
    · dsimp only
      split
      · exact ((List.dropWhile_suffix _).trans (sign_suffix r)).trans (List.suffix_cons _ _)
      · exact List.suffix_refl _
    · exact List.suffix_refl _

theorem numeral_suffix_tail (s : List Char) :
    (numeral s).2 <:+ (fraction ((sign s).2.dropWhile Ascii.isDigit)).2 :=
  exponent_suffix _

/-- A number takes at least one character. -/
theorem numeral_suffix {c : Char} {r : List Char} (h : startsNumber (c :: r) = true) :
    (numeral (c :: r)).2 <:+ r := by
  refine (numeral_suffix_tail (c :: r)).trans ?_
  rw [startsNumber] at h
  by_cases signed : (sign (c :: r)).2 = c :: r
  · rw [signed] at h ⊢
    split at h
    · rename_i s e
      injection e with e₁ e₂
      subst e₁ e₂
      have : Ascii.isDigit '.' = false := by decide
      simp only [List.dropWhile_cons, this, fraction, h, if_true, Bool.false_eq_true, if_false]
      exact List.dropWhile_suffix _
    · simp only [startsDigit] at h
      simp only [List.dropWhile_cons, h, if_true]
      exact (fraction_suffix _).trans (List.dropWhile_suffix _)
  · have : (sign (c :: r)).2 = r := by
      unfold sign at signed ⊢
      split <;> simp_all
    rw [this]
    exact (fraction_suffix _).trans (List.dropWhile_suffix _)

/-- A name takes at least one character where an identifier starts. -/
theorem name_suffix_of_startsIdent {c : Char} {r : List Char} (h : startsIdent (c :: r) = true) :
    (name (c :: r)).rest <:+ r := by
  rw [name]
  split
  · rename_i e
    subst e
    have : startsNewline r = false := by
      cases r <;> simp_all [startsIdent]
    simp only [this, Bool.false_eq_true, if_false]
    exact (name_suffix _).trans (escape_suffix r)
  · split
    · exact name_suffix r
    · rename_i h₁ h₂
      exfalso
      apply h₂
      fun_cases startsIdent (c :: r) <;> simp_all [isNameChar, startsIdent]

theorem numericToken_suffix {c : Char} {r : List Char} (h : startsNumber (c :: r) = true) :
    (numericToken (c :: r)).rest <:+ r := by
  have h := numeral_suffix h
  unfold numericToken
  dsimp only
  split
  · rename_i e
    exact (List.suffix_cons _ _).trans (e ▸ h)
  · split
    · exact (name_suffix _).trans h
    · exact h

theorem identToken_suffix {c : Char} {r : List Char} (h : startsIdent (c :: r) = true) :
    (identToken (c :: r)).rest <:+ r := by
  have h := name_suffix_of_startsIdent h
  unfold identToken
  dsimp only
  split
  · rename_i t e
    have h : t <:+ r := (List.suffix_cons _ _).trans (e ▸ h)
    split
    · split
      · exact h
      · exact h
      · exact ((urlRest_suffix _ _).trans (List.dropWhile_suffix _)).trans h
    · exact h
  · exact h

theorem hashToken_suffix (s : List Char) : (hashToken s).rest <:+ s := by
  unfold hashToken
  dsimp only
  split
  · exact name_suffix s
  · split
    · exact name_suffix s
    · exact List.suffix_refl s

theorem punctuation_suffix (c : Char) (r : List Char) : (punctuation c r).rest <:+ r := by
  unfold punctuation
  split
  case h_15 =>
    exact ((List.suffix_cons _ _).trans (List.suffix_cons _ _)).trans (List.suffix_cons _ _)
  case h_16 => exact (List.suffix_cons _ _).trans (List.suffix_cons _ _)
  case h_17 => exact (commentRest_suffix _).trans (List.suffix_cons _ _)
  all_goals first | exact List.suffix_refl _ | exact List.suffix_cons _ _

/-- A token takes at least its first character. -/
theorem token_suffix (c : Char) (r : List Char) : (token c r).rest <:+ r := by
  unfold token
  split
  · exact List.dropWhile_suffix _
  split
  · exact numericToken_suffix ‹_›
  split
  · exact quotedRest_suffix _ _
  split
  · exact hashToken_suffix r
  split
  · exact name_suffix r
  split
  · rename_i h
    exact identToken_suffix h.1
  · exact punctuation_suffix c r

/-! ## Lexemes -/

/-- The lexemes of a text. -/
def lexemes : List Char → List Lexeme
  | [] => []
  | c :: r =>
    let t := token c r
    ⟨t.value, (c :: r).take (r.length + 1 - t.rest.length), t.complete⟩ :: lexemes t.rest
termination_by s => s.length
decreasing_by
  have := (token_suffix c r).length_le
  simp only [List.length_cons]
  omega

/-- The texts of the lexemes join to the text that was read. -/
theorem flatMap_text_lexemes (s : List Char) : (lexemes s).flatMap Lexeme.text = s := by
  fun_induction lexemes s with
  | case1 => rfl
  | case2 c r t ih =>
    obtain ⟨p, h⟩ := token_suffix c r
    have h : c :: r = (c :: p) ++ t.rest := by rw [List.cons_append, h]
    have n : r.length + 1 - t.rest.length = (c :: p).length := by
      have := congrArg List.length h
      simp only [List.length_append, List.length_cons] at this ⊢
      omega
    rw [List.flatMap_cons, ih, n]
    conv => lhs; arg 1; rw [h]
    rw [List.take_left', ← h]
    rfl

end StyleTree.Css
