/-!
# UTF-8

Bytes and characters. Decoding never fails: every longest prefix of a character that the bytes cut
short, and every byte that starts none, becomes one replacement character.
-/

namespace StyleTree.Utf8

def encode (s : List Char) : List UInt8 :=
  s.flatMap String.utf8EncodeChar

/-- A character of several bytes that is not complete yet. -/
structure Pending where
  /-- How many bytes are missing. -/
  needed : Nat
  /-- The bounds of the next byte. -/
  lower : UInt8
  upper : UInt8
  /-- The bits read so far. -/
  bits : Nat
deriving DecidableEq, Repr

/-- The character that the byte is, or the one that it starts. -/
def start (b : UInt8) : Option Char × Option Pending :=
  let n := b.toNat
  if n < 0x80 then (some (Char.ofNat n), none)
  else if 0xc2 ≤ n ∧ n ≤ 0xdf then (none, some ⟨1, 0x80, 0xbf, n - 0xc0⟩)
  else if 0xe0 ≤ n ∧ n ≤ 0xef then
    (none, some ⟨2, if n = 0xe0 then 0xa0 else 0x80, if n = 0xed then 0x9f else 0xbf, n - 0xe0⟩)
  else if 0xf0 ≤ n ∧ n ≤ 0xf4 then
    (none, some ⟨3, if n = 0xf0 then 0x90 else 0x80, if n = 0xf4 then 0x8f else 0xbf, n - 0xf0⟩)
  else (some '\ufffd', none)

/-- The characters of the bytes, after those of an incomplete character. -/
def decodeFrom : Option Pending → List UInt8 → List Char
  | none, [] => []
  | some _, [] => ['\ufffd']
  | none, b :: rest => (start b).1.toList ++ decodeFrom (start b).2 rest
  | some p, b :: rest =>
    if p.lower ≤ b ∧ b ≤ p.upper then
      let bits := p.bits * 64 + (b.toNat - 0x80)
      if p.needed ≤ 1 then Char.ofNat bits :: decodeFrom none rest
      else decodeFrom (some ⟨p.needed - 1, 0x80, 0xbf, bits⟩) rest
    else '\ufffd' :: (start b).1.toList ++ decodeFrom (start b).2 rest

/-- The characters of the bytes. -/
def decode (bytes : List UInt8) : List Char :=
  decodeFrom none bytes

end StyleTree.Utf8
