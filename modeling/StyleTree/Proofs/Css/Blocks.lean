import StyleTree.Css.ComponentValue
import StyleTree.Proofs.Css.Spelling

/-!
# Values are read as they are spelled

Values whose lexemes are spelled, each before the text of the next, and whose blocks are closed, are
the values of their text. `Spells` says of values that they have a text and are spelled whenever one
of certain texts follows; texts that are put one after another are spelled by their values.
-/

namespace StyleTree.Css

/-! ## Lexemes and blocks -/

mutual

/-- The lexemes that the value is made of. -/
def ComponentValue.flat : ComponentValue → List Lexeme
  | .token l => [l]
  | .block o body close => o :: flatten body ++ close.toList

/-- The lexemes that the values are made of. -/
def flatten : List ComponentValue → List Lexeme
  | [] => []
  | v :: vs => v.flat ++ flatten vs

end

mutual

/-- The value is read from its text if `rest` follows. -/
def ComponentValue.IsSpelled (rest : List Char) : ComponentValue → Prop
  | .token l => l.Spelled rest ∧ l.token.closer? = none ∧ l.token.isError = false
  | .block o body close =>
    ∃ c, close = some c ∧ o.token.closer? = some c.token ∧
      o.Spelled (textOf body ++ (c.text ++ rest)) ∧ AllSpelled (c.text ++ rest) body ∧
      c.Spelled rest

/-- The values are read from their text if `rest` follows. -/
def AllSpelled (rest : List Char) : List ComponentValue → Prop
  | [] => True
  | v :: vs => v.IsSpelled (textOf vs ++ rest) ∧ AllSpelled rest vs

end

mutual

theorem ComponentValue.lexemes_text {rest : List Char} : ∀ v : ComponentValue, v.IsSpelled rest →
    lexemes (v.text ++ rest) = v.flat ++ lexemes rest
  | .token l, h => h.1
  | .block o body close, h => by
    obtain ⟨c, rfl, -, ho, hbody, hc⟩ := h
    have hopen : lexemes (o.text ++ (textOf body ++ (c.text ++ rest))) = _ := ho
    have hclose : lexemes (c.text ++ rest) = _ := hc
    simp only [ComponentValue.text, Option.elim_some, List.append_assoc]
    rw [hopen, lexemes_textOf body hbody, hclose]
    simp [ComponentValue.flat]

theorem lexemes_textOf {rest : List Char} : ∀ vs : List ComponentValue, AllSpelled rest vs →
    lexemes (textOf vs ++ rest) = flatten vs ++ lexemes rest
  | [], _ => rfl
  | v :: vs, h => by
    rw [textOf, List.append_assoc, ComponentValue.lexemes_text v h.1, lexemes_textOf vs h.2,
      flatten, List.append_assoc]

end

/-- A token that closes a block marks an error where there is none to close. -/
theorem Token.isError_of_closer? {t u : Token} (h : t.closer? = some u) : u.isError = true := by
  cases t <;> cases h <;> rfl

theorem Token.isError_of_isSome_closer? {t : Token} (h : t.closer?.isSome = true) :
    t.isError = false := by
  cases t <;> first | rfl | cases h

/-- What a lexeme does: it closes the innermost block, opens one, or is a value. -/
theorem Nesting.read_cases (current : List ComponentValue)
    (outer : List (Lexeme × List ComponentValue)) (l : Lexeme) :
    (∃ o before around, outer = (o, before) :: around ∧ o.token.closer? = some l.token ∧
      read ⟨current, outer⟩ l = ⟨.block o current.reverse (some l) :: before, around⟩) ∨
    (l.token.closer?.isSome = true ∧ read ⟨current, outer⟩ l = ⟨[], (l, current) :: outer⟩) ∨
    (l.token.closer? = none ∧
      (∀ o before around, outer = (o, before) :: around → o.token.closer? ≠ some l.token) ∧
      read ⟨current, outer⟩ l = ⟨.token l :: current, outer⟩) := by
  unfold read
  dsimp only
  split
  next o before around =>
    by_cases hcloses : o.token.closer? = some l.token
    · exact .inl ⟨o, before, around, rfl, hcloses, if_pos hcloses⟩
    rw [if_neg hcloses]
    by_cases hopens : l.token.closer?.isSome = true
    · exact .inr (.inl ⟨hopens, if_pos hopens⟩)
    · refine .inr (.inr ⟨by simpa using hopens, ?_, if_neg hopens⟩)
      rintro _ _ _ ⟨⟩
      exact hcloses
  next =>
    by_cases hopens : l.token.closer?.isSome = true
    · exact .inr (.inl ⟨hopens, if_pos hopens⟩)
    · exact .inr (.inr ⟨by simpa using hopens, nofun, if_neg hopens⟩)

/-- The token that closes the innermost open block. -/
def Nesting.closer? : List (Lexeme × List ComponentValue) → Option Token
  | [] => none
  | (o, _) :: _ => o.token.closer?

section Nesting

variable {current : List ComponentValue} {outer : List (Lexeme × List ComponentValue)}
  {l : Lexeme}

/-- A lexeme that opens nothing and does not close the innermost block is put to the values. -/
theorem Nesting.read_value (hopens : l.token.closer? = none)
    (hcloses : some l.token ≠ closer? outer) :
    read ⟨current, outer⟩ l = ⟨.token l :: current, outer⟩ := by
  rcases read_cases current outer l with
    ⟨o, before, around, rfl, hclose, -⟩ | ⟨hopen, -⟩ | ⟨-, -, hread⟩
  · exact absurd hclose.symm hcloses
  · rw [hopens] at hopen
    cases hopen
  · exact hread

theorem Nesting.read_plain (hopens : l.token.closer? = none) (hsound : l.token.isError = false) :
    read ⟨current, outer⟩ l = ⟨.token l :: current, outer⟩ := by
  refine read_value hopens ?_
  cases outer with
  | nil => exact fun heq => by cases heq
  | cons frame outer =>
    intro heq
    simp [Token.isError_of_closer? heq.symm] at hsound

theorem Nesting.read_open (hopens : l.token.closer?.isSome = true) :
    read ⟨current, outer⟩ l = ⟨[], (l, current) :: outer⟩ := by
  rcases read_cases current outer l with ⟨o, -, -, -, hclose, -⟩ | ⟨-, hread⟩ | ⟨hnone, -, -⟩
  · have hsound := Token.isError_of_isSome_closer? hopens
    simp [Token.isError_of_closer? hclose] at hsound
  · exact hread
  · simp [hnone] at hopens

theorem Nesting.read_close {o : Lexeme} {before : List ComponentValue}
    (hclose : o.token.closer? = some l.token) :
    Nesting.read ⟨current, (o, before) :: outer⟩ l =
      ⟨.block o current.reverse (some l) :: before, outer⟩ := by
  unfold Nesting.read
  dsimp only
  rw [if_pos hclose]

end Nesting

/-! ## Closed values -/

mutual

/-- The value stands where `closer` closes the block around it: a block is closed in turn, and a
token does not close the block around it. -/
def ComponentValue.IsClosed (closer : Option Token) : ComponentValue → Prop
  | .token l => l.token.closer? = none ∧ some l.token ≠ closer
  | .block o body close =>
    ∃ c, close = some c ∧ o.token.closer? = some c.token ∧ AllClosed (some c.token) body

/-- The values stand where `closer` closes the block around them. -/
def AllClosed (closer : Option Token) : List ComponentValue → Prop
  | [] => True
  | v :: vs => v.IsClosed closer ∧ AllClosed closer vs

end

mutual

theorem ComponentValue.foldl_read_of_isClosed : ∀ (v : ComponentValue)
    (current : List ComponentValue) (outer : List (Lexeme × List ComponentValue)),
    v.IsClosed (Nesting.closer? outer) →
      v.flat.foldl Nesting.read ⟨current, outer⟩ = ⟨v :: current, outer⟩
  | .token l, current, outer, h => Nesting.read_value h.1 h.2
  | .block o body close, current, outer, h => by
    obtain ⟨c, rfl, hclose, hbody⟩ := h
    have hbody : AllClosed (Nesting.closer? ((o, current) :: outer)) body := by
      rwa [Nesting.closer?, hclose]
    rw [ComponentValue.flat, List.cons_append, List.foldl_cons,
      Nesting.read_open (by simp [hclose]), List.foldl_append,
      foldl_read_of_allClosed body [] _ hbody]
    simp [Nesting.read_close hclose]

theorem foldl_read_of_allClosed : ∀ (vs current : List ComponentValue)
    (outer : List (Lexeme × List ComponentValue)), AllClosed (Nesting.closer? outer) vs →
      (flatten vs).foldl Nesting.read ⟨current, outer⟩ = ⟨vs.reverse ++ current, outer⟩
  | [], _, _, _ => rfl
  | v :: vs, current, outer, h => by
    rw [flatten, List.foldl_append, ComponentValue.foldl_read_of_isClosed v current outer h.1,
      foldl_read_of_allClosed vs _ _ h.2]
    simp

end

theorem nest_flatten {vs : List ComponentValue} (h : AllClosed none vs) :
    nest (flatten vs) = vs := by
  rw [nest, foldl_read_of_allClosed vs [] [] h]
  simp [Nesting.finish]

mutual

/-- What closes a block is an error among the values that are spelled, so none of them closes the
block around them. -/
theorem ComponentValue.IsSpelled.isClosed {rest : List Char} {closer : Option Token}
    (hcloser : ∀ t, closer = some t → t.isError = true) :
    ∀ v : ComponentValue, v.IsSpelled rest → v.IsClosed closer
  | .token l, h => by
    refine ⟨h.2.1, fun heq => ?_⟩
    have hsound := h.2.2
    simp [hcloser _ heq.symm] at hsound
  | .block o body close, h => by
    obtain ⟨c, rfl, hclose, -, hbody, -⟩ := h
    refine ⟨c, rfl, hclose, AllSpelled.allClosed ?_ body hbody⟩
    rintro _ ⟨⟩
    exact Token.isError_of_closer? hclose

theorem AllSpelled.allClosed {rest : List Char} {closer : Option Token}
    (hcloser : ∀ t, closer = some t → t.isError = true) :
    ∀ vs : List ComponentValue, AllSpelled rest vs → AllClosed closer vs
  | [], _ => trivial
  | v :: vs, h =>
    ⟨ComponentValue.IsSpelled.isClosed hcloser v h.1, AllSpelled.allClosed hcloser vs h.2⟩

end

/-- Values that are spelled are the values of their text. -/
theorem values_textOf {vs : List ComponentValue} (h : AllSpelled [] vs) :
    values (String.ofList (textOf vs)) = vs := by
  have hlexemes : lexemes (textOf vs) = flatten vs := by
    have h := lexemes_textOf vs h
    rwa [List.append_nil, lexemes, List.append_nil] at h
  have hclosed : AllClosed none vs := AllSpelled.allClosed (fun _ ht => by cases ht) vs h
  rw [values, String.toList_ofList, hlexemes, nest_flatten hclosed]

/-! ## Texts and their values -/

/-- The values have the text, and are spelled before every text that satisfies `ends`. -/
structure Spells (vs : List ComponentValue) (cs : List Char) (ends : List Char → Prop) : Prop where
  text : textOf vs = cs
  spelled : ∀ rest, ends rest → AllSpelled rest vs

theorem textOf_append (vs us : List ComponentValue) :
    textOf (vs ++ us) = textOf vs ++ textOf us := by
  induction vs with
  | nil => rfl
  | cons v vs ih => simp [textOf, ih]

theorem AllSpelled.append {vs us : List ComponentValue} {rest : List Char}
    (hvs : AllSpelled (textOf us ++ rest) vs) (hus : AllSpelled rest us) :
    AllSpelled rest (vs ++ us) := by
  induction vs with
  | nil => exact hus
  | cons v vs ih =>
    have htext : textOf (vs ++ us) ++ rest = textOf vs ++ (textOf us ++ rest) := by
      rw [textOf_append, List.append_assoc]
    exact ⟨htext.symm ▸ hvs.1, ih hvs.2⟩

namespace Spells

variable {vs us : List ComponentValue} {cs ds : List Char} {P Q : List Char → Prop}

theorem nil : Spells [] [] P :=
  ⟨rfl, fun _ _ => trivial⟩

theorem append (hvs : Spells vs cs P) (hus : Spells us ds Q)
    (h : ∀ rest, Q rest → P (ds ++ rest)) : Spells (vs ++ us) (cs ++ ds) Q where
  text := by rw [textOf_append, hvs.text, hus.text]
  spelled rest hrest := by
    refine AllSpelled.append ?_ (hus.spelled rest hrest)
    rw [hus.text]
    exact hvs.spelled _ (h rest hrest)

theorem mono (h : Spells vs cs P) (hends : ∀ rest, Q rest → P rest) :
    Spells vs cs Q :=
  ⟨h.text, fun rest hrest => h.spelled rest (hends rest hrest)⟩

theorem token {l : Lexeme} (hl : ∀ rest, P rest → l.Spelled rest)
    (hopens : l.token.closer? = none) (hsound : l.token.isError = false) :
    Spells [.token l] l.text P :=
  ⟨by simp [textOf, ComponentValue.text],
    fun rest hrest => ⟨⟨hl rest hrest, hopens, hsound⟩, trivial⟩⟩

/-- A token that is read whatever comes next, before values that are spelled. -/
theorem cons {l : Lexeme} (hl : ∀ rest, l.Spelled rest) (hopens : l.token.closer? = none)
    (hsound : l.token.isError = false) (h : Spells vs cs P) :
    Spells (.token l :: vs) (l.text ++ cs) P :=
  (token (P := fun _ => True) (fun rest _ => hl rest) hopens hsound).append h fun _ _ => trivial

/-- A block is spelled if its contents are, before what closes it. -/
theorem block {o c : Lexeme} (hclose : o.token.closer? = some c.token)
    (ho : ∀ rest, o.Spelled (cs ++ (c.text ++ rest))) (hc : ∀ rest, c.Spelled rest)
    (hvs : Spells vs cs P) (hends : ∀ rest, P (c.text ++ rest)) :
    Spells [.block o vs (some c)] (o.text ++ (cs ++ c.text)) Q := by
  refine ⟨by simp [textOf, ComponentValue.text, hvs.text], fun rest _ => ⟨?_, trivial⟩⟩
  refine ⟨c, rfl, hclose, ?_, hvs.spelled _ (hends _), hc _⟩
  rw [hvs.text]
  exact ho _

end Spells

/-! ## Values that are written -/

namespace ComponentValue

/-- A name as an identifier. -/
def ident (name : String) : ComponentValue :=
  .token ⟨.ident name, escapeIdent name.toList, true⟩

/-- A function with the contents `body`. -/
def function (name : String) (body : List ComponentValue) : ComponentValue :=
  .block ⟨.function name, escapeIdent name.toList ++ ['('], true⟩ body
    (some ⟨.parenClose, [')'], true⟩)

/-- A block between square brackets. -/
def square (body : List ComponentValue) : ComponentValue :=
  .block ⟨.squareOpen, ['['], true⟩ body (some ⟨.squareClose, [']'], true⟩)

def space : ComponentValue :=
  .token ⟨.whitespace, [' '], true⟩

def comma : ComponentValue :=
  .token ⟨.comma, [','], true⟩

def colon : ComponentValue :=
  .token ⟨.colon, [':'], true⟩

def delim (c : Char) : ComponentValue :=
  .token ⟨.delim c, [c], true⟩

end ComponentValue

open ComponentValue

theorem spells_ident {name : String} (h : IsName name) :
    Spells [ident name] (escapeIdent name.toList) fun rest => endsIdent rest = true :=
  .token (fun _ hrest => spelled_ident h hrest) rfl rfl

theorem spells_space : Spells [space] [' '] fun rest => rest.head?.all (!isSpace ·) = true :=
  .token (fun _ hrest => spelled_whitespace hrest) rfl rfl

theorem Spells.comma {vs : List ComponentValue} {cs : List Char} {P : List Char → Prop}
    (h : Spells vs cs P) : Spells (.comma :: vs) (',' :: cs) P :=
  h.cons (spelled_fixed rfl) rfl rfl

theorem Spells.colon {vs : List ComponentValue} {cs : List Char} {P : List Char → Prop}
    (h : Spells vs cs P) : Spells (.colon :: vs) (':' :: cs) P :=
  h.cons (spelled_fixed rfl) rfl rfl

theorem spells_square {vs : List ComponentValue} {cs : List Char} {P Q : List Char → Prop}
    (h : Spells vs cs P) (hends : ∀ rest, P (']' :: rest)) :
    Spells [square vs] ('[' :: (cs ++ [']'])) Q :=
  .block rfl (fun _ => spelled_fixed rfl _) (fun _ => spelled_fixed rfl _) h hends

/-- A name that is written without escapes, and that may name a function. -/
def isWord (name : String) : Bool :=
  !name.toList.isEmpty && !name.toList.contains '\x00' && escapeIdent name.toList == name.toList &&
    name.toList.map Char.toLower != ['u', 'r', 'l']

theorem isName_of_isWord {name : String} (h : isWord name = true) : IsName name := by
  simp only [isWord, Bool.and_eq_true] at h
  simpa [IsName] using h.1.1

theorem escapeIdent_of_isWord {name : String} (h : isWord name = true) :
    escapeIdent name.toList = name.toList := by
  simp only [isWord, Bool.and_eq_true, beq_iff_eq] at h
  exact h.1.2

theorem spells_word {name : String} (h : isWord name = true) :
    Spells [ident name] name.toList fun rest => endsIdent rest = true := by
  have hspells := spells_ident (isName_of_isWord h)
  rwa [escapeIdent_of_isWord h] at hspells

theorem spells_function {name : String} (h : isWord name = true) {vs : List ComponentValue}
    {cs : List Char} {P Q : List Char → Prop} (hvs : Spells vs cs P)
    (hends : ∀ rest, P (')' :: rest)) :
    Spells [function name vs] (name.toList ++ '(' :: (cs ++ [')'])) Q := by
  have hurl : name.toList.map Char.toLower ≠ ['u', 'r', 'l'] := by
    simp only [isWord, Bool.and_eq_true, bne_iff_ne] at h
    exact h.2
  have hblock := Spells.block (o := ⟨.function name, escapeIdent name.toList ++ ['('], true⟩)
    (c := ⟨.parenClose, [')'], true⟩) (Q := Q) rfl
    (fun _ => spelled_function (isName_of_isWord h) hurl _) (fun _ => spelled_fixed rfl _) hvs
    hends
  rw [escapeIdent_of_isWord h, List.append_assoc] at hblock
  rw [function, escapeIdent_of_isWord h]
  exact hblock

/-! ## Depth -/

theorem depthOf_append (vs us : List ComponentValue) :
    depthOf (vs ++ us) = max (depthOf vs) (depthOf us) := by
  induction vs with
  | nil => simp [depthOf]
  | cons v vs ih => rw [List.cons_append, depthOf, depthOf, ih, Nat.max_assoc]

theorem depth_le_of_mem {vs : List ComponentValue} {v : ComponentValue} (h : v ∈ vs) :
    v.depth ≤ depthOf vs := by
  induction vs with
  | nil => cases h
  | cons u vs ih =>
    rw [depthOf]
    rcases List.mem_cons.mp h with rfl | h
    · exact Nat.le_max_left _ _
    · exact Nat.le_trans (ih h) (Nat.le_max_right _ _)

theorem depthOf_le_of_subset {vs us : List ComponentValue} (h : us ⊆ vs) :
    depthOf us ≤ depthOf vs := by
  induction us with
  | nil => exact Nat.zero_le _
  | cons u us ih =>
    obtain ⟨hu, hus⟩ := List.cons_subset.mp h
    exact Nat.max_le.mpr ⟨depth_le_of_mem hu, ih hus⟩

end StyleTree.Css
