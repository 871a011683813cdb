import Mathlib.Algebra.Ring.Int.Defs
import Mathlib.Algebra.Ring.Nat
import Mathlib.Data.Int.Order.Basic
import Mathlib.Tactic.SplitIfs
import StyleTree.Css.AnPlusB

/-!
# The positions of a formula

A formula selects the members of an arithmetic progression that starts at its offset. `selects`
tells them by a remainder and a quotient. Both are taken here once more in words of 64 bits, where
an operation gives nothing if its result does not fit, and nothing if it divides by zero: for
numbers of 32 bits this never comes to pass.
-/

namespace StyleTree

/-! ## Words -/

namespace Word

/-- The word that an operation left, if it is the number that the operation is to give. -/
def checked (exact : Int) (w : Int64) : Option Int64 :=
  if w.toInt = exact then some w else none

def add? (a b : Int64) : Option Int64 :=
  checked (a.toInt + b.toInt) (a + b)

def sub? (a b : Int64) : Option Int64 :=
  checked (a.toInt - b.toInt) (a - b)

/-- The quotient, rounded towards zero. -/
def div? (a b : Int64) : Option Int64 :=
  if b = 0 then none else checked (a.toInt.tdiv b.toInt) (a / b)

/-- The remainder that goes with `div?`. There is none where there is no quotient. -/
def rem? (a b : Int64) : Option Int64 :=
  (div? a b).map fun _ => a % b

/-- The remainder that is not negative. -/
def emod? (a b : Int64) : Option Int64 := do
  let r ← rem? a b
  if r < 0 then
    if b < 0 then sub? r b else add? r b
  else return r

/-- The number is one of 64 bits. -/
def Fits (n : Int) : Prop :=
  -2 ^ 63 ≤ n ∧ n < 2 ^ 63

/-- The operation gives a word, and the word is the number. -/
def Gives (result : Option Int64) (n : Int) : Prop :=
  ∃ w, result = some w ∧ w.toInt = n

variable {a b : Int64}

theorem Fits.bmod_eq {n : Int} (h : Fits n) : n.bmod (2 ^ 64) = n := by
  obtain ⟨hlow, hhigh⟩ := h
  apply Int.bmod_eq_of_le <;> omega

theorem gives_checked {exact : Int} {w : Int64} (h : w.toInt = exact) :
    Gives (checked exact w) exact :=
  ⟨w, if_pos h, h⟩

theorem gives_add? (h : Fits (a.toInt + b.toInt)) : Gives (add? a b) (a.toInt + b.toInt) :=
  gives_checked (by rw [Int64.toInt_add, h.bmod_eq])

theorem gives_sub? (h : Fits (a.toInt - b.toInt)) : Gives (sub? a b) (a.toInt - b.toInt) :=
  gives_checked (by rw [Int64.toInt_sub, h.bmod_eq])

theorem gives_div? (hb : b ≠ 0) (h : Fits (a.toInt.tdiv b.toInt)) :
    Gives (div? a b) (a.toInt.tdiv b.toInt) := by
  rw [div?, if_neg hb]
  exact gives_checked (by rw [Int64.toInt_div, h.bmod_eq])

theorem gives_rem? (hb : b ≠ 0) (h : Fits (a.toInt.tdiv b.toInt)) :
    Gives (rem? a b) (a.toInt.tmod b.toInt) := by
  obtain ⟨q, hq, -⟩ := gives_div? hb h
  exact ⟨a % b, by rw [rem?, hq, Option.map_some], Int64.toInt_mod a b⟩

theorem eq_zero_iff : b = 0 ↔ b.toInt = 0 := by
  rw [← Int64.toInt_inj, Int64.toInt_zero]

/-- The divisor brings a negative remainder back among the others. -/
theorem emod_eq_tmod {a b : Int} (hb : b ≠ 0) :
    a % b = if a.tmod b < 0 then if b < 0 then a.tmod b - b else a.tmod b + b else a.tmod b := by
  have hnonneg := Int.emod_nonneg a hb
  have hless := Int.emod_lt a hb
  rw [Int.tmod_eq_emod]
  split_ifs <;> omega

theorem gives_emod? (hb : b ≠ 0) (h : Fits (a.toInt.tdiv b.toInt)) :
    Gives (emod? a b) (a.toInt % b.toInt) := by
  obtain ⟨r, hr, hvalue⟩ := gives_rem? hb h
  have hne := mt eq_zero_iff.mpr hb
  have hfits : Fits (a.toInt % b.toInt) := by
    have hnonneg := Int.emod_nonneg a.toInt hne
    have hless := Int.emod_lt a.toInt hne
    have hlow := Int64.le_toInt b
    have hhigh := Int64.toInt_lt b
    constructor <;> omega
  rw [emod_eq_tmod hne, ← hvalue] at hfits ⊢
  rw [emod?, hr]
  simp only [Option.bind_eq_bind, Option.bind_some, Int64.lt_iff_toInt_lt, Int64.toInt_zero]
  split
  next hneg =>
    rw [if_pos hneg] at hfits
    split
    next hminus =>
      rw [if_pos hminus] at hfits
      exact gives_sub? hfits
    next hplus =>
      rw [if_neg hplus] at hfits
      exact gives_add? hfits
  next => exact ⟨r, rfl, rfl⟩

end Word

/-! ## Formulas -/

namespace AnPlusB

/-- The position is one that the formula reaches from its offset by some number of steps. -/
theorem selects_iff (f : AnPlusB) (position : Int) :
    f.selects position = true ↔ ∃ n : Nat, f.step * n + f.offset = position := by
  unfold selects
  dsimp only
  split
  next hzero =>
    rw [decide_eq_true_iff, hzero]
    constructor
    · exact fun h => ⟨0, by omega⟩
    · rintro ⟨n, hn⟩
      omega
  next hstep =>
    rw [Bool.and_eq_true, decide_eq_true_iff, decide_eq_true_iff]
    constructor
    · rintro ⟨hremainder, hquotient⟩
      have hmul := Int.mul_tdiv_cancel' (Int.dvd_of_emod_eq_zero hremainder)
      refine ⟨((position - f.offset).tdiv f.step).toNat, ?_⟩
      rw [Int.toNat_of_nonneg hquotient, hmul]
      omega
    · rintro ⟨n, rfl⟩
      rw [Int.add_sub_cancel, Int.mul_emod_right, Int.mul_tdiv_cancel_left _ hstep]
      exact ⟨rfl, Int.natCast_nonneg n⟩

/-- As `selects`, by words of 64 bits. Nothing if an operation overflows or divides by zero. -/
def selectsWord? (step offset position : Int32) : Option Bool := do
  let step := step.toInt64
  let distance ← Word.sub? position.toInt64 offset.toInt64
  if step = 0 then return distance = 0
  if (← Word.emod? distance step) ≠ 0 then return false
  return 0 ≤ (← Word.div? distance step)

/-- The distance has 33 bits, and so has every quotient of it. -/
theorem fits_of_words (offset position : Int32) (b : Int) :
    Word.Fits (position.toInt - offset.toInt) ∧
      Word.Fits ((position.toInt - offset.toInt).tdiv b) := by
  have hoffset := And.intro (Int32.le_toInt offset) (Int32.toInt_lt offset)
  have hposition := And.intro (Int32.le_toInt position) (Int32.toInt_lt position)
  have hquotient := Int.natAbs_tdiv_le_natAbs (position.toInt - offset.toInt) b
  constructor <;> constructor <;> omega

theorem selectsWord?_eq (step offset position : Int32) :
    selectsWord? step offset position =
      some ((⟨step.toInt, offset.toInt⟩ : AnPlusB).selects position.toInt) := by
  obtain ⟨hdistance, hquotient⟩ := fits_of_words offset position step.toInt
  obtain ⟨distance, hsub, hvalue⟩ :
      Word.Gives (Word.sub? position.toInt64 offset.toInt64) (position.toInt - offset.toInt) := by
    rw [← Int32.toInt_toInt64 position, ← Int32.toInt_toInt64 offset] at hdistance ⊢
    exact Word.gives_sub? hdistance
  rw [← hvalue, ← Int32.toInt_toInt64 step] at hquotient
  unfold selectsWord? selects
  simp only [hsub, Option.bind_eq_bind, Option.bind_some, Word.eq_zero_iff, Int32.toInt_toInt64,
    ← hvalue]
  split
  next => rfl
  next hne =>
    have hstep : step.toInt64 ≠ 0 := by
      rwa [Ne, Word.eq_zero_iff, Int32.toInt_toInt64]
    obtain ⟨r, hr, hremainder⟩ := Word.gives_emod? hstep hquotient
    obtain ⟨q, hq, hresult⟩ := Word.gives_div? hstep hquotient
    rw [Int32.toInt_toInt64] at hremainder hresult
    rw [hr, hq, ← hremainder, ← hresult]
    simp only [Option.bind_some, Ne, Word.eq_zero_iff, Int64.le_iff_toInt_le, Int64.toInt_zero]
    split
    next hr => simp [hr]
    next hr => simp [not_not.mp hr]

/-- For all numbers of 32 bits, a formula selects the members of its progression; and the test for
them, done by words of 64 bits, neither overflows nor divides by zero. -/
theorem selects_progression (step offset position : Int32) :
    let f : AnPlusB := ⟨step.toInt, offset.toInt⟩
    (f.selects position.toInt = true ↔ ∃ n : Nat, f.step * n + f.offset = position.toInt) ∧
      selectsWord? step offset position = some (f.selects position.toInt) :=
  ⟨selects_iff _ _, selectsWord?_eq step offset position⟩

end AnPlusB

end StyleTree
