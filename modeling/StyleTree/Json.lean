import StyleTree.Text.Ascii

/-!
# JSON text

Values as they are written: members keep their order and their duplicates, so that a reader of a
record can refuse what it must. Strings with an unpaired surrogate escape have no value but do
occur in text, also as keys; only who needs the value has to refuse them.
-/

namespace StyleTree

inductive Json where
  | null
  | bool (value : Bool)
  | integer (value : Int)
  /-- A number with a fraction or an exponent, as it is written. -/
  | decimal (text : String)
  | string (value : String)
  /-- A string with an unpaired surrogate. -/
  | brokenString
  | array (items : List Json)
  | object (members : List (String × Json))
  /-- An object with such a string among its keys. -/
  | brokenObject
deriving Repr, Inhabited

namespace Json

/-! ## Reading -/

def isSpace (c : Char) : Bool :=
  c == ' ' || c == '\t' || c == '\n' || c == '\r'

def skipSpace (s : List Char) : List Char :=
  s.dropWhile isSpace

/-- The value of four hexadecimal digits, and the text after them. -/
def hex4? : List Char → Option (Nat × List Char)
  | a :: b :: c :: d :: rest =>
    match Ascii.hexDigit? a, Ascii.hexDigit? b, Ascii.hexDigit? c, Ascii.hexDigit? d with
    | some a, some b, some c, some d => some (((a * 16 + b) * 16 + c) * 16 + d, rest)
    | _, _, _, _ => none
  | _ => none

/-- The code point of a surrogate pair, if the text goes on with the second half. -/
def pair? (high : Nat) : List Char → Option (Char × List Char)
  | '\\' :: 'u' :: rest =>
    match hex4? rest with
    | some (low, rest) =>
      if 0xdc00 ≤ low ∧ low ≤ 0xdfff then
        some (Char.ofNat (0x10000 + (high - 0xd800) * 0x400 + (low - 0xdc00)), rest)
      else none
    | none => none
  | _ => none

/-- The character that a one-letter escape stands for. -/
def simpleEscape? : Char → Option Char
  | '"' => some '"'
  | '\\' => some '\\'
  | '/' => some '/'
  | 'b' => some '\x08'
  | 'f' => some '\x0c'
  | 'n' => some '\n'
  | 'r' => some '\r'
  | 't' => some '\t'
  | _ => none

/-- The rest of a string after its opening quote: its value, if every surrogate has its partner,
and the text after it. `seen` is what precedes, in reverse. -/
def stringRest? : Nat → Option (List Char) → List Char → Option (Option (List Char) × List Char)
  | 0, _, _ => none
  | _, _, [] => none
  | fuel + 1, seen, c :: rest =>
    if c = '"' then some (seen.map List.reverse, rest)
    else if c.toNat < 0x20 then none
    else if c = '\\' then
      match rest with
      | 'u' :: rest =>
        match hex4? rest with
        | none => none
        | some (n, rest) =>
          if 0xd800 ≤ n ∧ n ≤ 0xdbff then
            match pair? n rest with
            | some (c, rest) => stringRest? fuel (seen.map (c :: ·)) rest
            | none => stringRest? fuel none rest
          else if 0xdc00 ≤ n ∧ n ≤ 0xdfff then stringRest? fuel none rest
          else stringRest? fuel (seen.map (Char.ofNat n :: ·)) rest
      | e :: rest =>
        match simpleEscape? e with
        | some c => stringRest? fuel (seen.map (c :: ·)) rest
        | none => none
      | [] => none
    else stringRest? fuel (seen.map (c :: ·)) rest

/-- The digits at the start of the text, of which there has to be one. -/
def digits? (s : List Char) : Option (List Char × List Char) :=
  let ds := s.takeWhile Ascii.isDigit
  if ds.isEmpty then none else some (ds, s.dropWhile Ascii.isDigit)

def natOf (ds : List Char) : Nat :=
  ds.foldl (fun n c => 10 * n + (c.toNat - '0'.toNat)) 0

/-- The fraction and exponent of a number, if they are well formed: whether one is written, and
the text after them. -/
def numberTail? (s : List Char) : Option (Bool × List Char) :=
  let afterFraction : Option (Bool × List Char) :=
    match s with
    | '.' :: r => (digits? r).map fun (_, r) => (true, r)
    | _ => some (false, s)
  match afterFraction with
  | none => none
  | some (written, c :: r) =>
    if c = 'e' ∨ c = 'E' then
      let r := match r with
        | '+' :: t | '-' :: t => t
        | t => t
      (digits? r).map fun (_, r) => (true, r)
    else some (written, c :: r)
  | some (written, []) => some (written, [])

/-- A number at the start of the text; no digit may follow a leading zero. -/
def number? (s : List Char) : Option (Json × List Char) :=
  let minus := s.head? == some '-'
  match digits? (if minus then s.tail else s) with
  | none => none
  | some (ds, rest) =>
    if ds.length > 1 ∧ ds.head? = some '0' then none
    else
      (numberTail? rest).map fun (written, rest) =>
        let n : Int := natOf ds
        if written then (.decimal (String.ofList (s.take (s.length - rest.length))), rest)
        else (.integer (if minus then -n else n), rest)

/-- The text after `word`, if the text starts with it. -/
def word? (word : String) (s : List Char) : Option (List Char) :=
  let w := word.toList
  if w.isPrefixOf s then some (s.drop w.length) else none

mutual

/-- A value at the start of the text, and the text after it. -/
def value? : Nat → List Char → Option (Json × List Char)
  | 0, _ => none
  | fuel + 1, s =>
    match skipSpace s with
    | '"' :: r =>
      (stringRest? (r.length + 1) (some []) r).map fun (v, rest) =>
        (v.elim .brokenString fun cs => .string (String.ofList cs), rest)
    | '[' :: r =>
      match skipSpace r with
      | ']' :: rest => some (.array [], rest)
      | r => items? fuel [] r
    | '\x7b' :: r =>
      match skipSpace r with
      | '\x7d' :: rest => some (.object [], rest)
      | r => members? fuel (some []) r
    | 't' :: r => (word? "rue" r).map (.bool true, ·)
    | 'f' :: r => (word? "alse" r).map (.bool false, ·)
    | 'n' :: r => (word? "ull" r).map (.null, ·)
    | s => number? s

/-- The items of an array up to its closing bracket, after those of `seen`, which is in reverse. -/
def items? : Nat → List Json → List Char → Option (Json × List Char)
  | 0, _, _ => none
  | fuel + 1, seen, s =>
    match value? fuel s with
    | none => none
    | some (v, rest) =>
      match skipSpace rest with
      | ',' :: rest => items? fuel (v :: seen) rest
      | ']' :: rest => some (.array (v :: seen).reverse, rest)
      | _ => none

/-- The members of an object up to its closing brace, after those of `seen`, in reverse, if every
key has a value. -/
def members? : Nat → Option (List (String × Json)) → List Char → Option (Json × List Char)
  | 0, _, _ => none
  | fuel + 1, seen, s =>
    match skipSpace s with
    | '"' :: r =>
      match stringRest? (r.length + 1) (some []) r with
      | none => none
      | some (key, rest) =>
        match skipSpace rest with
        | ':' :: rest =>
          match value? fuel rest with
          | none => none
          | some (v, rest) =>
            let seen := match seen, key with
              | some members, some key => some ((String.ofList key, v) :: members)
              | _, _ => none
            match skipSpace rest with
            | ',' :: rest => members? fuel seen rest
            | '\x7d' :: rest =>
              some (seen.elim .brokenObject fun members => .object members.reverse, rest)
            | _ => none
        | _ => none
    | _ => none

end

/-- The value that the whole text is. -/
def parse? (s : String) : Option Json :=
  let cs := s.toList
  match value? (cs.length + 1) cs with
  | some (v, rest) => if (skipSpace rest).isEmpty then some v else none
  | none => none

/-! ## Writing -/

/-- A character inside a string. -/
def escapeChar (c : Char) : List Char :=
  if c = '"' then ['\\', '"']
  else if c = '\\' then ['\\', '\\']
  else if c.toNat < 0x20 then
    ['\\', 'u', '0', '0', Ascii.hexChar (c.toNat / 16), Ascii.hexChar (c.toNat % 16)]
  else [c]

def quote (s : String) : String :=
  "\"" ++ String.ofList (s.toList.flatMap escapeChar) ++ "\""

mutual

/-- The value as text, without white space. -/
def render : Json → String
  | .null => "null"
  | .bool b => if b then "true" else "false"
  | .integer n => toString n
  | .decimal text => text
  | .string s => quote s
  | .brokenString => "\"\\ud800\""
  | .array items => "[" ++ renderItems items ++ "]"
  | .object members => "\x7b" ++ renderMembers members ++ "\x7d"
  | .brokenObject => "\x7b\"\\ud800\":null\x7d"

def renderItems : List Json → String
  | [] => ""
  | [v] => render v
  | v :: vs => render v ++ "," ++ renderItems vs

def renderMembers : List (String × Json) → String
  | [] => ""
  | [(k, v)] => quote k ++ ":" ++ render v
  | (k, v) :: ms => quote k ++ ":" ++ render v ++ "," ++ renderMembers ms

end

/-! ## Members -/

/-- The value of the first member with the key. -/
def get? (key : String) : Json → Option Json
  | object members => (members.find? (·.1 == key)).map (·.2)
  | _ => none

end Json

end StyleTree
