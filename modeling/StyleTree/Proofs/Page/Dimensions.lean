import Mathlib.Algebra.Order.Field.Rat
import Mathlib.Tactic.FieldSimp
import Mathlib.Tactic.NormNum
import Mathlib.Tactic.SplitIfs
import StyleTree.Page.Hints
import StyleTree.Proofs.Css.Declarations

/-!
# Legacy dimensions

The width and the height of an image or a table are decimals, which a style sheet gets with a unit
behind them. It reads a decimal and its unit as one token of the value that the digits have by their
places, except after a point with no digit behind it: there the number ends before the point.
-/

namespace StyleTree

/-! ## Decimals -/

namespace NumberText

open Css

/-- The value of a decimal: the number of its digits before the point, and that of the digits
behind it over as many powers of ten as there are of them. -/
def decimalValue (s : List Char) : ℚ :=
  let whole := s.takeWhile Ascii.isDigit
  let digits := (s.dropWhile Ascii.isDigit).tail
  Nat.ofDigitChars 10 whole 0 + Nat.ofDigitChars 10 digits 0 / 10 ^ digits.length

/-- How a decimal is written: without a point, with a point at its end, or with digits behind the
point. -/
inductive Decimal : List Char → Prop where
  | whole {cs : List Char} (hne : cs ≠ []) (hcs : ∀ c ∈ cs, Ascii.isDigit c = true) : Decimal cs
  | point {cs : List Char} (hne : cs ≠ []) (hcs : ∀ c ∈ cs, Ascii.isDigit c = true) :
    Decimal (cs ++ ['.'])
  | fraction {cs digits : List Char} (hcs : ∀ c ∈ cs, Ascii.isDigit c = true) (hne : digits ≠ [])
    (hdigits : ∀ c ∈ digits, Ascii.isDigit c = true) : Decimal (cs ++ '.' :: digits)

theorem decimal_of_isDecimal {s : List Char} (h : isDecimal s = true) : Decimal s := by
  have hwhole : ∀ c ∈ s.takeWhile Ascii.isDigit, Ascii.isDigit c = true :=
    fun _ hc => List.mem_takeWhile_imp hc
  rw [← List.takeWhile_append_dropWhile (p := Ascii.isDigit) (l := s)]
  rw [isDecimal, mantissa?] at h
  split at h
  next r hrest =>
    split at h
    · cases h
    next hsome =>
      have hall : ∀ c ∈ r, Ascii.isDigit c = true := by simpa using h
      rw [hrest]
      cases r with
      | nil => exact .point (by simpa using hsome) hwhole
      | cons c r => exact .fraction hwhole (List.cons_ne_nil _ _) hall
  next =>
    split at h
    · cases h
    next hsome =>
      have hnil : s.dropWhile Ascii.isDigit = [] := by simpa using h
      rw [hnil, List.append_nil]
      exact .whole (by simpa using hsome) hwhole

theorem isDecimal_of_decimal {s : List Char} (h : Decimal s) : isDecimal s = true := by
  cases h with
  | whole hne hcs =>
    obtain ⟨htake, hdrop⟩ := span_digits (r := []) hcs rfl
    rw [List.append_nil] at htake hdrop
    simp [isDecimal, mantissa?, htake, hdrop, hne]
  | point hne hcs =>
    obtain ⟨htake, hdrop⟩ := span_digits (r := ['.']) hcs rfl
    simp [isDecimal, mantissa?, htake, hdrop, hne]
  | @fraction cs digits hcs hne hdigits =>
    obtain ⟨htake, hdrop⟩ := span_digits (r := '.' :: digits) hcs rfl
    have hall : digits.takeWhile Ascii.isDigit = digits := List.takeWhile_eq_self_iff.mpr hdigits
    simpa [isDecimal, mantissa?, htake, hdrop, hall, hne] using hdigits

/-- The texts that are accepted are those that are written as decimals. -/
theorem isDecimal_iff {s : List Char} : isDecimal s = true ↔ Decimal s :=
  ⟨decimal_of_isDecimal, isDecimal_of_decimal⟩

theorem decimalValue_append {whole tail : List Char}
    (hwhole : ∀ c ∈ whole, Ascii.isDigit c = true) (htail : startsDigit tail = false) :
    decimalValue (whole ++ tail) =
      decimal (decimal 0 whole) tail.tail * 10 ^ (-tail.tail.length : ℤ) := by
  obtain ⟨htake, hdrop⟩ := span_digits hwhole htail
  have hread : decimal (decimal 0 whole) tail.tail =
      10 ^ tail.tail.length * Nat.ofDigitChars 10 whole 0 + Nat.ofDigitChars 10 tail.tail 0 :=
    Nat.ofDigitChars_eq_ofDigitChars_zero
  rw [decimalValue, htake, hdrop, hread, zpow_neg, zpow_natCast]
  push_cast
  field_simp

end NumberText

/-! ## Numbers of style sheets -/

namespace Css

open NumberText
open Declaration (tokensOf)

/-- The number that is written. -/
def Numeral.value (n : Numeral) : ℚ :=
  n.mantissa * 10 ^ n.exponent

/-- Digits and the point and digits behind them, without a sign and an exponent, are read by their
value. -/
theorem exists_numeral {whole : List Char} (hwhole : ∀ c ∈ whole, Ascii.isDigit c = true)
    (tail : List Char) (htail : startsDigit tail = false) :
    ∃ n : Numeral, n.value = decimalValue (whole ++ tail) ∧ ∀ r t,
      sign (whole ++ (tail ++ r)) = (none, whole ++ (tail ++ r)) →
      startsDigit (tail ++ r) = false → fraction (tail ++ r) = (tail.tail, t) →
      exponent t = (none, t) → numeral (whole ++ (tail ++ r)) = (n, t) := by
  refine ⟨⟨false, decimal (decimal 0 whole) tail.tail, -tail.tail.length, tail.tail.isEmpty⟩, ?_,
    fun r t hsign hstops hfraction hexponent => ?_⟩
  · rw [decimalValue_append hwhole htail]
    rfl
  · exact numeral_digits hsign hwhole hstops hfraction hexponent

theorem startsDigit_digits {cs : List Char} (hne : cs ≠ [])
    (hcs : ∀ c ∈ cs, Ascii.isDigit c = true) (r : List Char) : startsDigit (cs ++ r) = true := by
  cases cs with
  | nil => exact absurd rfl hne
  | cons c cs => exact hcs c List.mem_cons_self

theorem fraction_digits {digits r : List Char} (hne : digits ≠ [])
    (hdigits : ∀ c ∈ digits, Ascii.isDigit c = true) (hr : startsDigit r = false) :
    fraction ('.' :: (digits ++ r)) = (digits, r) := by
  obtain ⟨htake, hdrop⟩ := span_digits hdigits hr
  rw [fraction, if_pos (startsDigit_digits hne hdigits r), htake, hdrop]

theorem getLast?_ne_point {cs : List Char} (hcs : ∀ c ∈ cs, Ascii.isDigit c = true) :
    cs.getLast? ≠ some '.' := by
  intro hlast
  exact absurd (hcs _ (List.mem_of_getLast? hlast)) (by decide)

/-- A decimal is read up to its end, or up to the point that it ends in. -/
theorem numeral_of_decimal {s : List Char} (h : Decimal s) :
    ∃ n : Numeral, n.value = decimalValue s ∧ ∀ r, endsNumeral r = true →
      startsNumber (s ++ r) = true ∧
        numeral (s ++ r) = (n, if s.getLast? = some '.' then '.' :: r else r) := by
  cases h with
  | whole hne hcs =>
    obtain ⟨n, hvalue, hread⟩ := exists_numeral hcs [] rfl
    rw [List.append_nil] at hvalue
    refine ⟨n, hvalue, fun r hr => ?_⟩
    obtain ⟨hstops, hfraction, hexponent⟩ := of_endsNumeral hr
    have hstarts := startsDigit_digits hne hcs r
    rw [if_neg (getLast?_ne_point hcs)]
    exact ⟨startsNumber_of_startsDigit hstarts,
      hread r r (sign_of_startsDigit hstarts) hstops hfraction hexponent⟩
  | @point cs hne hcs =>
    obtain ⟨n, hvalue, hread⟩ := exists_numeral hcs ['.'] rfl
    refine ⟨n, hvalue, fun r hr => ?_⟩
    obtain ⟨hstops, -, -⟩ := of_endsNumeral hr
    have hstarts := startsDigit_digits hne hcs ('.' :: r)
    have hfraction : fraction ('.' :: r) = ([], '.' :: r) := by
      rw [fraction, if_neg (by simp [hstops])]
    rw [if_pos List.getLast?_concat, List.append_assoc]
    exact ⟨startsNumber_of_startsDigit hstarts,
      hread r _ (sign_of_startsDigit hstarts) rfl hfraction rfl⟩
  | @fraction cs digits hcs hne hdigits =>
    obtain ⟨n, hvalue, hread⟩ := exists_numeral hcs ('.' :: digits) rfl
    refine ⟨n, hvalue, fun r hr => ?_⟩
    obtain ⟨hstops, -, hexponent⟩ := of_endsNumeral hr
    have hfraction := fraction_digits hne hdigits hstops
    have hlast : (cs ++ '.' :: digits).getLast? ≠ some '.' := by
      rw [← List.singleton_append, ← List.append_assoc, List.getLast?_append_of_ne_nil _ hne]
      exact getLast?_ne_point hdigits
    obtain ⟨hsign, hstarts⟩ : sign (cs ++ ('.' :: digits ++ r)) =
        (none, cs ++ ('.' :: digits ++ r)) ∧
        startsNumber (cs ++ ('.' :: digits ++ r)) = true := by
      by_cases hcsne : cs = []
      · subst hcsne
        exact ⟨rfl, startsDigit_digits hne hdigits r⟩
      · have hstarts := startsDigit_digits hcsne hcs ('.' :: digits ++ r)
        exact ⟨sign_of_startsDigit hstarts, startsNumber_of_startsDigit hstarts⟩
    rw [if_neg hlast, List.append_assoc]
    exact ⟨hstarts, hread r r hsign rfl hfraction hexponent⟩

theorem tokensOf_append {l : Lexeme} {rest : List Char} (h : l.Spelled rest) :
    tokensOf (l.text ++ rest) = l.token :: tokensOf rest := by
  rw [tokensOf, h, List.map_cons, tokensOf]

theorem tokensOf_lexeme {l : Lexeme} (h : l.Spelled []) : tokensOf l.text = [l.token] := by
  have htokens := tokensOf_append h
  rwa [List.append_nil, tokensOf, tokensOf, lexemes_nil] at htokens

theorem isName_px : IsName "px" :=
  ⟨by decide, by decide⟩

theorem tokensOf_px : tokensOf ['p', 'x'] = [.ident "px"] :=
  tokensOf_lexeme (spelled_ident isName_px rfl)

theorem tokensOf_percent : tokensOf ['%'] = [.delim '%'] :=
  tokensOf_lexeme (l := ⟨.delim '%', ['%'], true⟩) (spelled_fixed rfl [])

/-- A point that no digit follows parts the number before it from what is behind it. -/
theorem tokensOf_pointed {s r : List Char} {n : Numeral} (hlast : s.getLast? = some '.')
    (hstart : startsNumber (s ++ r) = true) (hread : numeral (s ++ r) = (n, '.' :: r))
    (hr : startsDigit r = false) :
    tokensOf (s ++ r) = .number n :: .delim '.' :: tokensOf r := by
  obtain ⟨cs, rfl⟩ := List.getLast?_eq_some_iff.mp hlast
  rw [List.append_assoc, List.singleton_append] at hstart hread ⊢
  have hne : cs ≠ [] := by
    rintro rfl
    have hnone : startsNumber ('.' :: r) = false := hr
    exact absurd hstart (by simp [hnone])
  have hnumber := spelled_of_numericToken hne hstart (numericToken_of_bare hread (by simp) rfl)
  have hpoint : tokensOf ('.' :: r) = .delim '.' :: tokensOf r := tokensOf_append (spelled_dot hr)
  rw [tokensOf_append hnumber, hpoint]

/-- The tokens of a decimal with a unit. -/
theorem tokensOf_decimal {s : List Char} (h : Decimal s) :
    ∃ n : Numeral, n.value = decimalValue s ∧
      if s.getLast? = some '.' then
        tokensOf (s ++ ['%']) = [.number n, .delim '.', .delim '%'] ∧
          tokensOf (s ++ ['p', 'x']) = [.number n, .delim '.', .ident "px"]
      else
        tokensOf (s ++ ['%']) = [.percentage n] ∧
          tokensOf (s ++ ['p', 'x']) = [.dimension n "px"] := by
  obtain ⟨n, hvalue, hnumeral⟩ := numeral_of_decimal h
  obtain ⟨hstartPercent, hpercent⟩ := hnumeral ['%'] rfl
  obtain ⟨hstartPx, hpx⟩ := hnumeral ['p', 'x'] rfl
  refine ⟨n, hvalue, ?_⟩
  split
  next hlast =>
    rw [if_pos hlast] at hpercent hpx
    rw [tokensOf_pointed hlast hstartPercent hpercent rfl, tokensOf_percent,
      tokensOf_pointed hlast hstartPx hpx rfl, tokensOf_px]
    exact ⟨rfl, rfl⟩
  next hlast =>
    rw [if_neg hlast] at hpercent hpx
    have hne : s ≠ [] := by
      rintro rfl
      cases hstartPx
    exact ⟨tokensOf_lexeme (spelled_percentage hstartPercent hpercent),
      tokensOf_lexeme (spelled_unit isName_px hne hstartPx hpx rfl)⟩

end Css

/-! ## Dimensions -/

namespace Page

open NumberText Css
open Declaration (tokensOf)

/-- The digits and points that the value of an attribute starts with, behind white space. -/
def leadingNumber (value : String) : List Char :=
  (Ascii.trimStart value.toList).takeWhile fun c => Ascii.isDigit c || c == '.'

/-- A percent sign stands behind those digits and points. -/
def InPercent (value : String) : Prop :=
  ((Ascii.trimStart value.toList).dropWhile fun c => Ascii.isDigit c || c == '.').head? = some '%'

instance (value : String) : Decidable (InPercent value) :=
  inferInstanceAs (Decidable (_ = _))

/-- A dimension is given for a decimal: the decimal with its unit. -/
theorem dimension?_eq_some_iff {value length : String} :
    dimension? value = some length ↔ Decimal (leadingNumber value) ∧
      length.toList = leadingNumber value ++ if InPercent value then ['%'] else ['p', 'x'] := by
  have hdimension : dimension? value = if isDecimal (leadingNumber value) then
      some (String.ofList (leadingNumber value) ++ if InPercent value then "%" else "px")
    else none := rfl
  have htext : (String.ofList (leadingNumber value) ++
      if InPercent value then "%" else "px").toList =
        leadingNumber value ++ if InPercent value then ['%'] else ['p', 'x'] := by
    rw [String.toList_append, String.toList_ofList, apply_ite String.toList]
    rfl
  rw [hdimension, ← isDecimal_iff, ← htext, String.toList_inj, Option.ite_none_right_eq_some,
    Option.some_inj, eq_comm (a := length)]

/-- A legacy dimension is one token of a style sheet, a percentage if a percent sign follows the
number and a length in pixels else, of the value that its digits have by their places; but a number
that ends in a point is read without it, and the point and the unit are tokens of their own. -/
theorem tokensOf_dimension {value length : String} (h : dimension? value = some length) :
    ∃ n : Numeral, n.value = decimalValue (leadingNumber value) ∧
      tokensOf length.toList =
        if (leadingNumber value).getLast? = some '.' then
          [.number n, .delim '.', if InPercent value then .delim '%' else .ident "px"]
        else [if InPercent value then .percentage n else .dimension n "px"] := by
  obtain ⟨hdecimal, hlength⟩ := dimension?_eq_some_iff.mp h
  obtain ⟨n, hvalue, htokens⟩ := tokensOf_decimal hdecimal
  refine ⟨n, hvalue, ?_⟩
  rw [hlength]
  split_ifs at htokens ⊢
  · exact htokens.1
  · exact htokens.1
  · exact htokens.2
  · exact htokens.2

theorem tokensOf_dimension_percentage :
    dimension? " 12.5% wide" = some "12.5%" ∧
      ∃ n : Numeral, n.value = 25 / 2 ∧ tokensOf "12.5%".toList = [.percentage n] := by
  have hdimension : dimension? " 12.5% wide" = some "12.5%" := by decide
  have hnumber : leadingNumber " 12.5% wide" = ['1', '2', '.', '5'] := by decide
  have hpercent : InPercent " 12.5% wide" := by decide
  have hdecimal : decimalValue ['1', '2', '.', '5'] = 25 / 2 := by
    calc decimalValue ['1', '2', '.', '5'] = (12 : Nat) + (5 : Nat) / 10 ^ 1 := rfl
      _ = 25 / 2 := by norm_num
  obtain ⟨n, hvalue, htokens⟩ := tokensOf_dimension hdimension
  rw [hnumber, hdecimal] at hvalue
  rw [hnumber, if_neg (by decide), if_pos hpercent] at htokens
  exact ⟨hdimension, n, hvalue, htokens⟩

/-- A point at the end is no part of a number, so what is behind it is no unit of it. -/
theorem dimension_point_three_tokens :
    dimension? "1." = some "1.px" ∧
      tokensOf "1.px".toList = [.number ⟨false, 1, 0, true⟩, .delim '.', .ident "px"] ∧
      ∀ t, tokensOf "1.px".toList ≠ [t] := by
  have htokens : tokensOf "1.px".toList =
      [.number ⟨false, 1, 0, true⟩, .delim '.', .ident "px"] := by decide +kernel
  refine ⟨by decide, htokens, fun t hone => ?_⟩
  rw [htokens] at hone
  cases hone

end Page

end StyleTree
