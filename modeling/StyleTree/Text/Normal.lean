import StyleTree.Text.Normal.Tables

/-!
# Normal form

Two texts that read the same have one normal form: every character is composed as far as it can
be, and the marks after it are in the order of their classes.
-/

namespace StyleTree.Normal

/-- The class of a character that combines with the one before it; 0 for all others. -/
def combiningClass (c : Char) : Nat :=
  match classRanges.find? fun (first, last, _) => first ≤ c.toNat && c.toNat ≤ last with
  | some (_, _, n) => n
  | none => 0

/-! ## Compositions -/

/-- A character that is composed of two others. -/
structure Composition where
  base : Char
  mark : Char
  whole : Char
deriving DecidableEq, Repr

/-- The compositions with one mark, from pairs of the base and the whole. -/
def Composition.ofPairs (mark : Char) : List Char → List Composition
  | base :: whole :: rest => ⟨base, mark, whole⟩ :: ofPairs mark rest
  | _ => []

def compositions : List Composition :=
  compositionRows.flatMap fun (mark, text) => Composition.ofPairs (Char.ofNat mark) text.toList

/-- The Korean syllable of two letters, or of a syllable without a last letter and that letter. -/
def syllable? (a b : Char) : Option Char :=
  let x := a.toNat
  let y := b.toNat
  if 0x1100 ≤ x && x ≤ 0x1112 && 0x1161 ≤ y && y ≤ 0x1175 then
    some (Char.ofNat (0xac00 + ((x - 0x1100) * 21 + (y - 0x1161)) * 28))
  else if 0xac00 ≤ x && x ≤ 0xd7a3 && (x - 0xac00) % 28 == 0 && 0x11a8 ≤ y && y ≤ 0x11c2 then
    some (Char.ofNat (x + (y - 0x11a7)))
  else none

/-- The one character that the two compose. -/
def compose? (a b : Char) : Option Char :=
  match compositions.find? fun k => k.base == a && k.mark == b with
  | some k => some k.whole
  | none => syllable? a b

/-! ## The steps -/

/-- The character taken apart, up to `depth` times. -/
def decompose : Nat → Char → List Char
  | 0, c => [c]
  | depth + 1, c =>
    match compositions.find? (·.whole == c) with
    | some k => decompose depth k.base ++ [k.mark]
    | none => [c]

/-- Puts a character before others that are in order. It passes marks of lower classes. -/
def insertByClass (c : Char) : List Char → List Char
  | [] => [c]
  | d :: rest =>
    if 0 < combiningClass d && combiningClass d < combiningClass c then d :: insertByClass c rest
    else c :: d :: rest

/-- The text with each run of marks in the order of their classes. -/
def sortMarks (s : List Char) : List Char :=
  s.foldr insertByClass []

/-- Composes `base` with what follows. The characters in `passed`, last one first, stand between
and do not compose with it. -/
def composeFrom (base : Char) (passed : List Char) : List Char → List Char
  | [] => base :: passed.reverse
  | c :: rest =>
    let reachable := passed.head?.all fun p => combiningClass p < combiningClass c
    match if reachable then compose? base c else none with
    | some whole => composeFrom whole passed rest
    | none =>
      if combiningClass c = 0 then base :: (passed.reverse ++ composeFrom c [] rest)
      else composeFrom base (c :: passed) rest

/-- The text with all that can be composed. Marks at its start stay as they are. -/
def composeAll : List Char → List Char
  | [] => []
  | c :: rest => if combiningClass c = 0 then composeFrom c [] rest else c :: composeAll rest

/-- The text in normal form. No character is composed in more than three steps. -/
def ofText (s : List Char) : List Char :=
  composeAll (sortMarks (s.flatMap (decompose 3)))

end StyleTree.Normal
