import StyleTree.Text.Ascii
import StyleTree.Text.Utf8

/-!
# Percent encoding

Bytes that a part of a URL cannot hold are written as a percent sign and two hexadecimal digits.
Which ones they are depends on the part.
-/

namespace StyleTree.Percent

/-- Control characters and everything beyond ASCII. -/
def isControl (c : Char) : Bool :=
  c.toNat < 0x20 || c.toNat > 0x7e

def inFragment (c : Char) : Bool :=
  isControl c || [' ', '"', '<', '>', '\x60'].contains c

def inQuery (c : Char) : Bool :=
  isControl c || [' ', '"', '#', '<', '>'].contains c

/-- Queries of the schemes of the web. -/
def inSpecialQuery (c : Char) : Bool :=
  inQuery c || c == '\''

def inPath (c : Char) : Bool :=
  inFragment c || ['#', '?', '\x7b', '\x7d'].contains c

def inUserinfo (c : Char) : Bool :=
  inPath c || ['/', ':', ';', '=', '@', '[', '\\', ']', '^', '|'].contains c

def upperHex (n : Nat) : Char :=
  if n < 10 then Char.ofNat ('0'.toNat + n) else Char.ofNat ('A'.toNat + (n - 10))

def encodeByte (b : UInt8) : List Char :=
  ['%', upperHex (b.toNat / 16), upperHex (b.toNat % 16)]

/-- The text with every character that satisfies `p` encoded, each byte of it on its own. -/
def encode (p : Char → Bool) (s : List Char) : List Char :=
  s.flatMap fun c => if p c then (String.utf8EncodeChar c).flatMap encodeByte else [c]

/-- The byte that two hexadecimal digits stand for. -/
def byte? (a b : UInt8) : Option UInt8 :=
  match Ascii.hexDigit? (Char.ofNat a.toNat), Ascii.hexDigit? (Char.ofNat b.toNat) with
  | some h, some l => some (UInt8.ofNat (16 * h + l))
  | _, _ => none

/-- The bytes with every encoded byte decoded. A percent sign without two digits stays. -/
def decodeBytes : List UInt8 → List UInt8
  | 0x25 :: a :: b :: rest =>
    match byte? a b with
    | some c => c :: decodeBytes rest
    | none => 0x25 :: decodeBytes (a :: b :: rest)
  | c :: rest => c :: decodeBytes rest
  | [] => []

/-- The bytes that the text stands for. -/
def decode (s : List Char) : List UInt8 :=
  decodeBytes (Utf8.encode s)

end StyleTree.Percent
