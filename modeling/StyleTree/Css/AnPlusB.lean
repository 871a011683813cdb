import StyleTree.Css.ComponentValue

/-!
# The `An+B` notation

Formulas that select positions: `odd`, `3`, `-n+2`, `2n + 1`. Both coefficients are clamped to 32
bits when they are read. Main statements: `AnPlusB.selects` is the arithmetic meaning over all
integers, `AnPlusB.admits` the test that gives up where the distance leaves 32 bits.
-/

namespace StyleTree

/-- The positions `step * n + offset` for the natural numbers `n`. -/
structure AnPlusB where
  step : Int
  offset : Int
deriving DecidableEq, Repr, Inhabited

namespace AnPlusB

/-- The position is one of the formula's. -/
def selects (f : AnPlusB) (position : Int) : Bool :=
  let distance := position - f.offset
  if f.step = 0 then distance = 0
  else distance % f.step = 0 && distance.tdiv f.step ≥ 0

/-- As `selects`, but no position further than 32 bits from the offset is admitted. -/
def admits (f : AnPlusB) (position : Int) : Bool :=
  let distance := position - f.offset
  if distance < -2147483648 ∨ 2147483647 < distance then false
  else if f.step = 0 then distance = 0
  else
    let n := distance.tdiv f.step
    n ≥ 0 && f.step * n == distance

/-! ## Reading -/

open Css

/-- The digits after `n-`, of either case, as a negative number. -/
def negativeOffset? (s : String) : Option Int :=
  match s.toList with
  | c :: '-' :: digits =>
    if c.toLower == 'n' && !digits.isEmpty && digits.all Ascii.isDigit then
      some (clamp32 (-(decimal 0 digits : Int)))
    else none
  | _ => none

/-- The offset as a number without a sign of its own, after the sign `sign`. -/
def unsignedOffset? (sign : Int) (vs : List ComponentValue) : Option (Int × List ComponentValue) :=
  match skipBlank vs with
  | .token ⟨.number n, _, _⟩ :: rest =>
    if n.signed then none else n.int?.map fun b => (sign * b, rest)
  | _ => none

/-- The offset after the step: a signed number, or a sign and a number; zero if neither follows. -/
def offset? (vs : List ComponentValue) : Option (Int × List ComponentValue) :=
  match skipBlank vs with
  | .token ⟨.delim '+', _, _⟩ :: rest => unsignedOffset? 1 rest
  | .token ⟨.delim '-', _, _⟩ :: rest => unsignedOffset? (-1) rest
  | .token ⟨.number n, _, _⟩ :: rest =>
    match n.signed, n.int? with
    | true, some b => some (b, rest)
    | _, _ => some (0, vs)
  | _ => some (0, vs)

/-- The formula whose step has been read, from the name `s` that follows the step. -/
def afterStep? (step : Int) (s : String) (rest : List ComponentValue) :
    Option (AnPlusB × List ComponentValue) :=
  match Ascii.lower s with
  | "n" => (offset? rest).map fun (b, rest) => (⟨step, b⟩, rest)
  | "n-" => (unsignedOffset? (-1) rest).map fun (b, rest) => (⟨step, b⟩, rest)
  | _ => (negativeOffset? s).map fun b => (⟨step, b⟩, rest)

/-- A formula at the start of the values, and the values after it. -/
def read? (vs : List ComponentValue) : Option (AnPlusB × List ComponentValue) :=
  match skipBlank vs with
  | .token ⟨.number n, _, _⟩ :: rest => n.int?.map fun b => (⟨0, b⟩, rest)
  | .token ⟨.dimension n unit, _, _⟩ :: rest =>
    match n.int? with
    | some a => afterStep? a unit rest
    | none => none
  | .token ⟨.ident s, _, _⟩ :: rest =>
    match Ascii.lower s with
    | "even" => some (⟨2, 0⟩, rest)
    | "odd" => some (⟨2, 1⟩, rest)
    | _ =>
      match s.toList with
      | '-' :: cs => afterStep? (-1) (String.ofList cs) rest
      | _ => afterStep? 1 s rest
  | .token ⟨.delim '+', _, _⟩ :: rest =>
    match skipComments rest with
    | .token ⟨.ident s, _, _⟩ :: rest => afterStep? 1 s rest
    | _ => none
  | _ => none

/-- The formula that the whole text is, if it is one. -/
def parse? (s : String) : Option AnPlusB :=
  match read? (values s) with
  | some (f, rest) => if isExhausted rest then some f else none
  | none => none

end AnPlusB

end StyleTree
