import StyleTree.Css.AnPlusB
import StyleTree.Proofs.Css.Blocks
import StyleTree.Proofs.Css.Proper
import StyleTree.Selector.Printer

/-!
# Formulas that are read and written

The coefficients of a formula that is read are within 32 bits, and what follows the formula is left.
What is written for such a formula is read as the formula.
-/

namespace StyleTree

open Css

/-! ## 32 bits -/

/-- The number is within 32 bits. -/
def Css.IsInt32 (n : Int) : Prop :=
  clamp32 n = n

instance (n : Int) : Decidable (IsInt32 n) :=
  inferInstanceAs (Decidable (clamp32 n = n))

theorem Css.isInt32_clamp32 (n : Int) : IsInt32 (clamp32 n) := by
  unfold IsInt32 clamp32
  omega

/-- There is one negative number more than there are positive ones. -/
theorem Css.isInt32_neg {n : Int} (hn : 0 ≤ n) : IsInt32 (-clamp32 n) := by
  unfold IsInt32 clamp32
  omega

/-- The coefficients are within 32 bits. -/
structure AnPlusB.Fits (f : AnPlusB) : Prop where
  step : IsInt32 f.step
  offset : IsInt32 f.offset

/-! ## Reading -/

namespace AnPlusB

variable {vs rest : List ComponentValue} {f : AnPlusB} {b : Int}

theorem isInt32_int? {n : Numeral} (h : n.int? = some b) : IsInt32 b := by
  unfold Numeral.int? at h
  split at h
  · cases h
    exact isInt32_clamp32 _
  · cases h

theorem unsignedOffset?_spec {sign : Int} (hsign : sign = 1 ∨ sign = -1) (hvs : AllProper vs)
    (h : unsignedOffset? sign vs = some (b, rest)) : IsInt32 b ∧ rest <:+ vs := by
  unfold unsignedOffset? at h
  split at h
  next n _ _ rest' hskip =>
    have hn : n.signed = false → 0 ≤ n.mantissa :=
      (hskip ▸ hvs.skipBlank).head.token_isProper
    split at h
    · cases h
    next hsigned =>
      obtain ⟨a, ha, hab⟩ := Option.map_eq_some_iff.mp h
      cases hab
      refine ⟨?_, suffix_of_skipBlank hskip⟩
      rcases hsign with rfl | rfl
      · rw [Int.one_mul]
        exact isInt32_int? ha
      · rw [Int.neg_one_mul]
        unfold Numeral.int? at ha
        split at ha
        · cases ha
          exact isInt32_neg (hn (by simpa using hsigned))
        · cases ha
  · cases h

theorem offset?_spec (hvs : AllProper vs) (h : offset? vs = some (b, rest)) :
    IsInt32 b ∧ rest <:+ vs := by
  have hzero : some ((0 : Int), vs) = some (b, rest) → IsInt32 b ∧ rest <:+ vs := by
    rintro ⟨⟩
    exact ⟨rfl, List.suffix_refl _⟩
  unfold offset? at h
  split at h
  next rest' hskip =>
    have hrest := suffix_of_skipBlank hskip
    exact (unsignedOffset?_spec (.inl rfl) (hvs.of_suffix hrest) h).imp_right (·.trans hrest)
  next rest' hskip =>
    have hrest := suffix_of_skipBlank hskip
    exact (unsignedOffset?_spec (.inr rfl) (hvs.of_suffix hrest) h).imp_right (·.trans hrest)
  next n _ _ rest' hskip =>
    split at h
    next hb =>
      cases h
      exact ⟨isInt32_int? hb, suffix_of_skipBlank hskip⟩
    · exact hzero h
  · exact hzero h

theorem negativeOffset?_spec {s : String} (h : negativeOffset? s = some b) : IsInt32 b := by
  unfold negativeOffset? at h
  split at h
  · split at h
    · cases h
      exact isInt32_clamp32 _
    · cases h
  · cases h

theorem afterStep?_spec {step : Int} {s : String} (hstep : IsInt32 step) (hvs : AllProper vs)
    (h : afterStep? step s vs = some (f, rest)) : f.Fits ∧ rest <:+ vs := by
  unfold afterStep? at h
  split at h
  · obtain ⟨⟨b, rest'⟩, hb, hf⟩ := Option.map_eq_some_iff.mp h
    cases hf
    exact (offset?_spec hvs hb).imp_left (⟨hstep, ·⟩)
  · obtain ⟨⟨b, rest'⟩, hb, hf⟩ := Option.map_eq_some_iff.mp h
    cases hf
    exact (unsignedOffset?_spec (.inr rfl) hvs hb).imp_left (⟨hstep, ·⟩)
  · obtain ⟨b, hb, hf⟩ := Option.map_eq_some_iff.mp h
    cases hf
    exact ⟨⟨hstep, negativeOffset?_spec hb⟩, List.suffix_refl _⟩

/-- A formula that is read is within 32 bits, and what follows it is left. -/
theorem read?_spec (hvs : AllProper vs) (h : read? vs = some (f, rest)) : f.Fits ∧ rest <:+ vs := by
  have hafter : ∀ {step : Int} {s : String} {us : List ComponentValue}, IsInt32 step → us <:+ vs →
      afterStep? step s us = some (f, rest) → f.Fits ∧ rest <:+ vs := by
    intro step s us hstep hus h
    exact (afterStep?_spec hstep (hvs.of_suffix hus) h).imp_right (·.trans hus)
  unfold read? at h
  split at h
  next n _ _ rest' hskip =>
    obtain ⟨b, hb, hf⟩ := Option.map_eq_some_iff.mp h
    cases hf
    exact ⟨⟨rfl, isInt32_int? hb⟩, suffix_of_skipBlank hskip⟩
  next n unit _ _ rest' hskip =>
    split at h
    next ha => exact hafter (isInt32_int? ha) (suffix_of_skipBlank hskip) h
    · cases h
  next s _ _ rest' hskip =>
    have hrest := suffix_of_skipBlank hskip
    split at h
    · cases h
      exact ⟨⟨rfl, rfl⟩, hrest⟩
    · cases h
      exact ⟨⟨rfl, rfl⟩, hrest⟩
    · split at h
      · exact hafter (by decide) hrest h
      · exact hafter (by decide) hrest h
  next rest' hskip =>
    have hrest := suffix_of_skipBlank hskip
    split at h
    next s _ _ rest'' hname =>
      have hcons : rest'' <:+ rest' :=
        (List.suffix_cons _ _).trans (hname ▸ skipComments_suffix rest')
      exact hafter (by decide) (hcons.trans hrest) h
    · cases h
  · cases h

/-! ## Writing -/

/-- The name after the step: `n`, and the offset with it if that is negative. -/
def unit (f : AnPlusB) : String :=
  if f.offset < 0 then "n" ++ toString f.offset else "n"

/-- The step with the name after it; a step of one is not written. -/
def stepValue (f : AnPlusB) : ComponentValue :=
  if f.step = 1 then .ident f.unit
  else if f.step = -1 then .ident ("-" ++ f.unit)
  else .token ⟨.dimension (.ofInt (f.step < 0) f.step) f.unit,
    (toString f.step).toList ++ escapeIdent f.unit.toList, true⟩

/-- An offset that is not part of the name before it. -/
def offsetValues (f : AnPlusB) : List ComponentValue :=
  if 0 < f.offset then
    [.token ⟨.number (.ofInt true f.offset), '+' :: Nat.toDigits 10 f.offset.toNat, true⟩]
  else []

/-- The values that the text of the formula is made of. -/
def values (f : AnPlusB) : List ComponentValue :=
  if f.step = 0 then
    [.token ⟨.number (.ofInt (f.offset < 0) f.offset), (toString f.offset).toList, true⟩]
  else f.stepValue :: f.offsetValues

/-- The text does not go on with a formula. -/
def endsFormula (rest : List Char) : Bool :=
  rest.head?.all fun c => c == ' ' || c == ')'

theorem endsIdent_of_endsFormula {rest : List Char} (h : endsFormula rest = true) :
    endsIdent rest = true ∧ endsNumber rest = true := by
  cases rest with
  | nil => exact ⟨rfl, rfl⟩
  | cons c r =>
    simp only [endsFormula, List.head?_cons, Option.all_some, Bool.or_eq_true, beq_iff_eq] at h
    rcases h with rfl | rfl <;> exact ⟨rfl, rfl⟩

theorem toList_unit (f : AnPlusB) : f.unit.toList =
    if f.offset < 0 then 'n' :: '-' :: Nat.toDigits 10 f.offset.natAbs else ['n'] := by
  unfold unit
  split
  next h =>
    rw [String.toList_append, toList_toString_int, if_pos h]
    rfl
  · rfl

theorem escapeNameChar_of_isDigit {c : Char} (h : Ascii.isDigit c = true) :
    escapeNameChar c = [c] := by
  simp [escapeNameChar, Ascii.isAlphanumeric, h]

/-- The name after the step is written without escapes, also with a hyphen in front. -/
theorem escape_unit (f : AnPlusB) : escapeIdent f.unit.toList = f.unit.toList ∧
    escapeIdent ('-' :: f.unit.toList) = '-' :: f.unit.toList := by
  have hplain : ∀ c ∈ f.unit.toList, escapeNameChar c = [c] := by
    intro c hc
    rw [toList_unit] at hc
    split at hc
    · rcases List.mem_cons.mp hc with rfl | hc
      · decide
      rcases List.mem_cons.mp hc with rfl | hc
      · decide
      · exact escapeNameChar_of_isDigit (isDigit_of_mem_toDigits hc)
    · obtain rfl := List.mem_singleton.mp hc
      decide
  have hflat : ∀ cs : List Char, (∀ c ∈ cs, escapeNameChar c = [c]) →
      cs.flatMap escapeNameChar = cs := by
    intro cs hcs
    induction cs with
    | nil => rfl
    | cons c cs ih =>
      obtain ⟨hc, hcs⟩ := List.forall_mem_cons.mp hcs
      rw [List.flatMap_cons, hc, ih hcs, List.singleton_append]
  have hflat := hflat _ hplain
  obtain ⟨r, hr⟩ : ∃ r, f.unit.toList = 'n' :: r := by
    rw [toList_unit]
    split
    · exact ⟨_, rfl⟩
    · exact ⟨_, rfl⟩
  rw [hr] at hflat ⊢
  exact ⟨hflat, congrArg ('-' :: ·) hflat⟩

theorem isName_unit (f : AnPlusB) : IsName f.unit ∧ IsName ("-" ++ f.unit) := by
  have hnull : '\x00' ∉ f.unit.toList := by
    rw [toList_unit]
    split
    · simp only [List.mem_cons, not_or]
      refine ⟨by decide, by decide, fun h => ?_⟩
      cases isDigit_of_mem_toDigits h
    · decide
  refine ⟨⟨?_, hnull⟩, ?_, ?_⟩
  · rw [toList_unit]
    split <;> exact List.cons_ne_nil _ _
  · simp
  · simpa using hnull

/-- What is written before the name. -/
def stepText (f : AnPlusB) : List Char :=
  if f.step = 1 then [] else if f.step = -1 then ['-'] else (toString f.step).toList

theorem spells_stepValue (f : AnPlusB) :
    Spells [f.stepValue] (f.stepText ++ f.unit.toList) fun rest => endsIdent rest = true := by
  obtain ⟨hunit, hminus⟩ := f.isName_unit
  obtain ⟨hplain, hplain'⟩ := f.escape_unit
  unfold stepValue stepText
  split
  · have h := spells_ident hunit
    rwa [hplain] at h
  split
  · have h := spells_ident hminus
    rwa [String.toList_append, show "-".toList = ['-'] from rfl, List.singleton_append,
      hplain'] at h
  · have hspelled : ∀ rest, endsIdent rest = true → Lexeme.Spelled ⟨.dimension
        (.ofInt (f.step < 0) f.step) f.unit, (toString f.step).toList ++ escapeIdent f.unit.toList,
        true⟩ rest := by
      intro rest hrest
      refine spelled_dimension f.step hunit ?_ hrest
      rw [hplain, toList_unit]
      split <;> rfl
    rw [hplain] at hspelled ⊢
    exact .token hspelled rfl rfl

theorem text_of_step_ne_zero {f : AnPlusB} (h : f.step ≠ 0) : f.text.toList =
    (f.stepText ++ f.unit.toList) ++
      (if 0 < f.offset then '+' :: Nat.toDigits 10 f.offset.toNat else []) := by
  have hstep : (if f.step = 1 then "n" else if f.step = -1 then "-n" else
      toString f.step ++ "n").toList = f.stepText ++ ['n'] := by
    unfold stepText
    split
    · rfl
    split
    · rfl
    · rw [String.toList_append]
      rfl
  unfold text
  generalize (if f.step = 1 then "n" else if f.step = -1 then "-n" else toString f.step ++ "n") =
    step at hstep ⊢
  dsimp only
  rw [if_neg h, toList_unit]
  rcases Int.lt_trichotomy f.offset 0 with hoffset | hoffset | hoffset
  · rw [if_neg (by omega), if_pos hoffset, if_neg (by omega), String.toList_append, hstep,
      signedText, if_pos hoffset, toList_toString_int, if_pos hoffset]
    simp
  · rw [if_pos hoffset, if_neg (by omega), if_neg (by omega), hstep]
    simp
  · have hnat : f.offset.natAbs = f.offset.toNat := by omega
    rw [if_neg (by omega), if_neg (by omega), if_pos hoffset, String.toList_append, hstep,
      signedText, if_neg (by omega), String.toList_append, toList_toString_int,
      if_neg (by omega), hnat]
    rfl

theorem spells_values (f : AnPlusB) :
    Spells f.values f.text.toList fun rest => endsFormula rest = true := by
  unfold values
  split
  next h =>
    have htext : f.text.toList = (toString f.offset).toList := by simp [text, h]
    rw [htext]
    exact .token (fun rest hrest => spelled_number f.offset (endsIdent_of_endsFormula hrest).2)
      rfl rfl
  next h =>
    rw [text_of_step_ne_zero h]
    unfold offsetValues
    split
    next hoffset =>
      have hnumber : Spells [.token ⟨.number (.ofInt true f.offset),
          '+' :: Nat.toDigits 10 f.offset.toNat, true⟩] ('+' :: Nat.toDigits 10 f.offset.toNat)
          fun rest => endsFormula rest = true := by
        refine .token (fun rest hrest => ?_) rfl rfl
        have hnat : (f.offset.toNat : Int) = f.offset := by omega
        have hspelled := spelled_plus_number f.offset.toNat (endsIdent_of_endsFormula hrest).2
        rwa [hnat] at hspelled
      exact f.spells_stepValue.append hnumber fun rest _ => rfl
    · rw [List.append_nil]
      exact f.spells_stepValue.mono fun rest hrest => (endsIdent_of_endsFormula hrest).1

/-! ## Reading what is written -/

theorem lower_ne {s t : String}
    (h : s.toList.length ≠ t.toList.length ∨ s.toList.head?.map Char.toLower ≠ t.toList.head?) :
    Ascii.lower s ≠ t := by
  rintro rfl
  simp [Ascii.lower] at h

/-- A negative offset is part of the name. -/
theorem negativeOffset?_unit {f : AnPlusB} (hf : f.Fits) (h : f.offset < 0) :
    negativeOffset? f.unit = some f.offset := by
  have hunit := f.toList_unit
  rw [if_pos h] at hunit
  have hdigits : (Nat.toDigits 10 f.offset.natAbs).all Ascii.isDigit = true := by
    rw [List.all_eq_true]
    exact fun c hc => isDigit_of_mem_toDigits hc
  have hne : (Nat.toDigits 10 f.offset.natAbs).isEmpty = false := by
    simp [Nat.toDigits_ne_nil]
  have hvalue : (-(decimal 0 (Nat.toDigits 10 f.offset.natAbs) : Int)) = f.offset := by
    rw [decimal_toDigits]
    omega
  unfold negativeOffset?
  rw [hunit]
  simp [hdigits, hne, hvalue, show clamp32 f.offset = f.offset from hf.offset]

/-- The name after the step, and the offset behind it, are read with the step. -/
theorem afterStep?_unit {f : AnPlusB} (hf : f.Fits) {after : List ComponentValue}
    (hafter : offset? after = some (0, after)) :
    afterStep? f.step f.unit (f.offsetValues ++ after) = some (f, after) := by
  have hoffset := hf.offset
  unfold IsInt32 at hoffset
  rcases Int.lt_trichotomy f.offset 0 with h | h | h
  · have hlength : 3 ≤ f.unit.toList.length := by
      have hpos := List.length_pos_iff.mpr (Nat.toDigits_ne_nil (n := f.offset.natAbs) (b := 10))
      rw [toList_unit, if_pos h, List.length_cons, List.length_cons]
      omega
    have hvalues : f.offsetValues = [] := by rw [offsetValues, if_neg (by omega)]
    have hn : Ascii.lower f.unit ≠ "n" := lower_ne (.inl (by change _ ≠ 1; omega))
    have hminus : Ascii.lower f.unit ≠ "n-" := lower_ne (.inl (by change _ ≠ 2; omega))
    unfold afterStep?
    split
    next heq => exact absurd heq hn
    next heq => exact absurd heq hminus
    · rw [negativeOffset?_unit hf h, hvalues]
      rfl
  · have hunit : f.unit = "n" := by rw [unit, if_neg (by omega)]
    have hvalues : f.offsetValues = [] := by rw [offsetValues, if_neg (by omega)]
    rw [hunit, hvalues, List.nil_append]
    show (offset? after).map _ = _
    rw [hafter, Option.map_some, ← h]
  · have hunit : f.unit = "n" := by rw [unit, if_neg (by omega)]
    rw [hunit, offsetValues, if_pos h]
    show some ((⟨f.step, clamp32 f.offset⟩ : AnPlusB), after) = _
    rw [hoffset]

section Read

variable {text : List Char} {complete : Bool}

/-- A formula that starts with a name is neither of the two words. -/
theorem read?_ident {s : String} {c : Char} {cs : List Char} (h : s.toList = c :: cs)
    (hc : c = 'n' ∨ c = '-') (rest : List ComponentValue) :
    read? (.token ⟨.ident s, text, complete⟩ :: rest) =
      if c = '-' then afterStep? (-1) (String.ofList cs) rest else afterStep? 1 s rest := by
  have hword : ∀ t : String, t.toList.head? ≠ some 'n' → t.toList.head? ≠ some '-' →
      Ascii.lower s ≠ t := by
    intro t hn hminus
    refine lower_ne (.inr ?_)
    rw [h]
    rcases hc with rfl | rfl
    · exact hn.symm
    · exact hminus.symm
  have hskip : skipBlank (.token ⟨.ident s, text, complete⟩ :: rest) =
      .token ⟨.ident s, text, complete⟩ :: rest := rfl
  rw [read?, hskip]
  dsimp only
  split
  next heq => exact absurd heq (hword "even" (by decide) (by decide))
  next heq => exact absurd heq (hword "odd" (by decide) (by decide))
  · rw [h]
    rcases hc with rfl | rfl <;> rfl

theorem read?_dimension {n : Numeral} {a : Int} (h : n.int? = some a) (unit : String)
    (rest : List ComponentValue) :
    read? (.token ⟨.dimension n unit, text, complete⟩ :: rest) = afterStep? a unit rest := by
  have hskip : skipBlank (.token ⟨.dimension n unit, text, complete⟩ :: rest) =
      .token ⟨.dimension n unit, text, complete⟩ :: rest := rfl
  rw [read?, hskip]
  dsimp only
  rw [h]

end Read

/-- What is written for a formula is read as that formula. -/
theorem read?_values {f : AnPlusB} (hf : f.Fits) {after : List ComponentValue}
    (hafter : offset? after = some (0, after)) : read? (f.values ++ after) = some (f, after) := by
  obtain ⟨r, hr⟩ : ∃ r, f.unit.toList = 'n' :: r := by
    rw [toList_unit]
    split <;> exact ⟨_, rfl⟩
  have hunit := afterStep?_unit hf hafter
  unfold values
  split
  next h =>
    show some ((⟨0, clamp32 f.offset⟩ : AnPlusB), after) = _
    rw [show clamp32 f.offset = f.offset from hf.offset, ← h]
  unfold stepValue
  split
  next h =>
    rw [List.cons_append, ComponentValue.ident, read?_ident hr (.inl rfl)]
    rwa [h] at hunit
  split
  next h =>
    have hminus : ("-" ++ f.unit).toList = '-' :: f.unit.toList := by simp
    rw [List.cons_append, ComponentValue.ident, read?_ident hminus (.inr rfl), if_pos rfl,
      String.ofList_toList, ← h]
    exact hunit
  · have hint : Numeral.int? (.ofInt (f.step < 0) f.step) = some f.step :=
      congrArg some hf.step
    rw [List.cons_append, read?_dimension hint]
    exact hunit

end AnPlusB

end StyleTree
