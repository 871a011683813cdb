/-!
# Tokens of style sheet text

The alphabet of the style sheet grammar. Names, strings and URLs carry their value with the
escapes resolved; a numeral keeps its exact decimal value.
-/

namespace StyleTree.Css

/-- A number as it is written: its value is `mantissa * 10 ^ exponent`. -/
structure Numeral where
  /-- A sign is written. -/
  signed : Bool
  mantissa : Int
  exponent : Int
  /-- Neither a fraction nor an exponent is written. -/
  integral : Bool
deriving DecidableEq, Repr, Inhabited

/-- The nearest integer that 32 bits hold. -/
def clamp32 (n : Int) : Int :=
  max (-2147483648) (min 2147483647 n)

/-- The value of a numeral written as an integer, clamped to 32 bits. -/
def Numeral.int? (n : Numeral) : Option Int :=
  if n.integral then some (clamp32 n.mantissa) else none

inductive Token where
  | ident (name : String)
  | function (name : String)
  | atKeyword (name : String)
  /-- A `#` name that could stand for an identifier. -/
  | idHash (name : String)
  /-- Any other `#` name, such as a colour. -/
  | hash (name : String)
  | quoted (value : String)
  | url (value : String)
  | number (value : Numeral)
  | percentage (value : Numeral)
  | dimension (value : Numeral) (unit : String)
  | whitespace
  | comment
  | colon
  | semicolon
  | comma
  /-- `~=` -/
  | includeMatch
  /-- `|=` -/
  | dashMatch
  /-- `^=` -/
  | prefixMatch
  /-- `$=` -/
  | suffixMatch
  /-- `*=` -/
  | substringMatch
  /-- `<!--` -/
  | commentOpen
  /-- `-->` -/
  | commentClose
  | parenOpen
  | squareOpen
  | curlyOpen
  | parenClose
  | squareClose
  | curlyClose
  /-- A string cut short by a line break. -/
  | badString
  /-- An unquoted URL with a character that it cannot hold. -/
  | badUrl
  /-- Any other single character. -/
  | delim (char : Char)
deriving DecidableEq, Repr, Inhabited

namespace Token

/-- White space or a comment, which separates other tokens and means nothing else. -/
def isBlank : Token → Bool
  | whitespace | comment => true
  | _ => false

/-- The token that closes the block this token opens. -/
def closer? : Token → Option Token
  | parenOpen | function _ => some parenClose
  | squareOpen => some squareClose
  | curlyOpen => some curlyClose
  | _ => none

/-- The token marks an error: it cannot occur in well-formed text. -/
def isError : Token → Bool
  | badString | badUrl | parenClose | squareClose | curlyClose => true
  | _ => false

end Token

/-- A token together with the text it was read from. -/
structure Lexeme where
  token : Token
  text : List Char
  /-- The token ended before the text did, or where it may end: the text was not cut off inside a
  string, a comment, a URL or an escape. -/
  complete : Bool
deriving DecidableEq, Repr, Inhabited

end StyleTree.Css
