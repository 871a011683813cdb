import StyleTree.Text.Ascii
import StyleTree.Text.Split

/-!
# Labels in ASCII

A label beyond ASCII is written as its ASCII characters, a hyphen, and numbers that say which
characters stand where between them. A number has digits of growing weight, and how fast they
grow adapts to the numbers before it.
-/

namespace StyleTree.Punycode

/-! ## Numbers -/

def digitChar (d : Nat) : Char :=
  if d < 26 then Char.ofNat ('a'.toNat + d) else Char.ofNat ('0'.toNat + (d - 26))

def digitValue? (c : Char) : Option Nat :=
  if 'a' ≤ c && c ≤ 'z' then some (c.toNat - 'a'.toNat)
  else if 'A' ≤ c && c ≤ 'Z' then some (c.toNat - 'A'.toNat)
  else if Ascii.isDigit c then some (c.toNat - '0'.toNat + 26)
  else none

/-- The least digit that another one follows. -/
def threshold (bias k : Nat) : Nat :=
  if k ≤ bias then 1 else if k ≥ bias + 26 then 26 else k - bias

theorem threshold_pos (bias k : Nat) : 0 < threshold bias k := by
  unfold threshold
  split
  · omega
  · split <;> omega

/-- The bias of a large number, which is scaled down first. -/
def scaledBias (delta k : Nat) : Nat :=
  if delta > 455 then scaledBias (delta / 35) (k + 36) else k + 36 * delta / (delta + 38)
termination_by delta
decreasing_by exact Nat.div_lt_self (by omega) (by omega)

/-- The bias after a number, with as many characters written as `count`. -/
def adapt (delta count : Nat) (isFirst : Bool) : Nat :=
  let delta := if isFirst then delta / 700 else delta / 2
  scaledBias (delta + delta / count) 0

/-! ## Writing -/

/-- The digits of a number, the lightest one first. -/
def digits (bias k q : Nat) : List Char :=
  let t := threshold bias k
  if q < t then [digitChar q]
  else digitChar (t + (q - t) % (36 - t)) :: digits bias (k + 36) ((q - t) / (36 - t))
termination_by q
decreasing_by
  have := threshold_pos bias k
  have := Nat.div_le_self (q - threshold bias k) (36 - threshold bias k)
  omega

structure Encoder where
  delta : Nat
  bias : Nat
  handled : Nat
  isFirst : Bool
  out : List Char
deriving DecidableEq, Repr, Inhabited

/-- Writes every occurrence of the code point `n` in the label. -/
def Encoder.writePoint (label : List Nat) (n : Nat) (e : Encoder) : Encoder :=
  label.foldl (fun e c =>
    if c < n then { e with delta := e.delta + 1 }
    else if c = n then
      { delta := 0
        bias := adapt e.delta (e.handled + 1) e.isFirst
        handled := e.handled + 1
        isFirst := false
        out := e.out ++ digits e.bias 36 e.delta }
    else e) e

/-- Writes the code points of the label from `n` on, in order; at most `count` different ones. -/
def Encoder.writeFrom (label : List Nat) : Nat → Nat → Encoder → List Char
  | 0, _, e => e.out
  | count + 1, n, e =>
    match (label.filter (· ≥ n)).min? with
    | none => e.out
    | some m =>
      let e := writePoint label m { e with delta := e.delta + (m - n) * (e.handled + 1) }
      writeFrom label count (m + 1) { e with delta := e.delta + 1 }

def encode (label : List Char) : List Char :=
  let basic := label.filter (·.toNat < 0x80)
  let front := if basic.isEmpty then [] else basic ++ ['-']
  Encoder.writeFrom (label.map Char.toNat) label.length 0x80 ⟨0, 72, basic.length, true, front⟩

/-! ## Reading -/

/-- Numbers are below this bound. -/
def bound : Nat := 4294967296

/-- The sum of `i` and the number that the text starts with, and the text after it. -/
def readNumber? (bias k weight i : Nat) : List Char → Option (Nat × List Char)
  | [] => none
  | c :: rest =>
    match digitValue? c with
    | none => none
    | some d =>
      let i := i + d * weight
      let t := threshold bias k
      if i ≥ bound then none
      else if d < t then some (i, rest)
      else if weight * (36 - t) ≥ bound then none
      else readNumber? bias (k + 36) (weight * (36 - t)) i rest

theorem length_of_readNumber? {bias k weight i j : Nat} {s rest : List Char}
    (h : readNumber? bias k weight i s = some (j, rest)) : rest.length < s.length := by
  induction s generalizing k weight i with
  | nil => simp [readNumber?] at h
  | cons c s ih =>
    simp only [readNumber?] at h
    split at h
    · simp at h
    · split at h
      · simp at h
      · split at h
        · simp only [Option.some.injEq, Prod.mk.injEq] at h
          simp [h.2]
        · split at h
          · simp at h
          · exact Nat.lt_succ_of_lt (ih h)

/-- Reads numbers, each of which adds a character to those in `out`: the places before and after
every character are counted through, once for each code point from `n` on. -/
def readFrom? (bias n i : Nat) (out s : List Char) : Option (List Char) :=
  if s.isEmpty then some out
  else
    match _h : readNumber? bias 36 1 i s with
    | none => none
    | some (j, rest) =>
      let count := out.length + 1
      let point := n + j / count
      if point.isValidChar then
        readFrom? (adapt (j - i) count (i == 0)) point (j % count + 1)
          (out.insertIdx (j % count) (Char.ofNat point)) rest
      else none
termination_by s.length
decreasing_by exact length_of_readNumber? _h

/-- The label that the text stands for. The last hyphen ends the ASCII characters. -/
def decode? (s : List Char) : Option (List Char) :=
  match cutAt? (· == '-') s.reverse with
  | some (numbers, basic) =>
    if basic.isEmpty then none else readFrom? 72 0x80 0 basic.reverse numbers.reverse
  | none => readFrom? 72 0x80 0 [] s

end StyleTree.Punycode
