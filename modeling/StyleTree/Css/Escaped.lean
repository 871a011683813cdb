import StyleTree.Text.Ascii

/-!
# Escaped text

Identifiers and strings as style sheets write them, with every character escaped that would read
as something else. The null character has no escape and is written as a replacement character.
-/

namespace StyleTree.Css

/-- A code point below 128 as a numeric escape, with the space that ends it. -/
def hexEscape (c : Char) : List Char :=
  let n := c.toNat
  if n < 16 then ['\\', Ascii.hexChar n, ' ']
  else ['\\', Ascii.hexChar (n / 16), Ascii.hexChar (n % 16), ' ']

/-- The character is a control character other than null. -/
def isControl (c : Char) : Bool :=
  (1 ≤ c.toNat && c.toNat ≤ 0x1f) || c.toNat == 0x7f

/-- A character inside a name. -/
def escapeNameChar (c : Char) : List Char :=
  if Ascii.isAlphanumeric c || c == '_' || c == '-' || c.toNat ≥ 0x80 then [c]
  else if c = '\x00' then ['\ufffd']
  else if isControl c then hexEscape c
  else ['\\', c]

/-- The characters of an identifier. At its start a digit, also one after a hyphen, and a hyphen
on its own are escaped. -/
def escapeIdent : List Char → List Char
  | [] => []
  | ['-'] => ['\\', '-']
  | '-' :: '-' :: r => '-' :: '-' :: r.flatMap escapeNameChar
  | '-' :: c :: r =>
    '-' :: (if Ascii.isDigit c then hexEscape c else escapeNameChar c) ++ r.flatMap escapeNameChar
  | c :: r =>
    (if Ascii.isDigit c then hexEscape c else escapeNameChar c) ++ r.flatMap escapeNameChar

/-- A character inside a string. -/
def escapeQuotedChar (c : Char) : List Char :=
  if c = '"' then ['\\', '"']
  else if c = '\\' then ['\\', '\\']
  else if c = '\x00' then ['\ufffd']
  else if isControl c then hexEscape c
  else [c]

/-- A name as an identifier token. -/
def identText (s : String) : String :=
  String.ofList (escapeIdent s.toList)

/-- A value as a string token. -/
def quotedText (s : String) : String :=
  "\"" ++ String.ofList (s.toList.flatMap escapeQuotedChar) ++ "\""

end StyleTree.Css
