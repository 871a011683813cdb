import StyleTree.Text.Split
import StyleTree.Url.Basic
import StyleTree.Url.Percent

/-!
# Data URLs

Resources that are written out in their own URL: a media type, perhaps the mark that the body is
in base 64, a comma and the body.
-/

namespace StyleTree.DataUrl

/-! ## The media type -/

def isHttpSpace (c : Char) : Bool :=
  c == ' ' || c == '\t' || c == '\n' || c == '\r'

def isTokenChar (c : Char) : Bool :=
  Ascii.isAlphanumeric c ||
    ['!', '#', '$', '%', '&', '\'', '*', '+', '-', '.', '^', '_', '\x60', '|', '~'].contains c

/-- A name without white space or punctuation; not empty. -/
def isToken (s : List Char) : Bool :=
  !s.isEmpty && s.all isTokenChar

def trimEnd (p : Char → Bool) (s : List Char) : List Char :=
  (s.reverse.dropWhile p).reverse

/-- The value of a quoted parameter after its quote, and the text after the closing one. -/
def quotedValue : List Char → List Char × List Char
  | '"' :: r => ([], r)
  | ['\\'] => (['\\'], [])
  | '\\' :: c :: r =>
    let (v, rest) := quotedValue r
    (c :: v, rest)
  | c :: r =>
    let (v, rest) := quotedValue r
    (c :: v, rest)
  | [] => ([], [])

/-- The parameters, in order: their names in lower case and their values. At most `limit` are
read. Those without a proper name or without a value do not count. -/
def parameters : Nat → List Char → List (String × String)
  | 0, _ => []
  | limit + 1, s =>
    let s := s.dropWhile isHttpSpace
    let name := s.takeWhile fun c => c != ';' && c != '='
    let key := String.ofList (name.map Char.toLower)
    match s.drop name.length with
    | '=' :: '"' :: r =>
      let (value, rest) := quotedValue r
      let more := parameters limit ((cutAt? (· == ';') rest).elim [] (·.2))
      if isToken name then (key, String.ofList value) :: more else more
    | '=' :: r =>
      let value := trimEnd isHttpSpace (r.takeWhile (· != ';'))
      let more := parameters limit ((cutAt? (· == ';') r).elim [] (·.2))
      if isToken name && !value.isEmpty then (key, String.ofList value) :: more else more
    | _ :: r => parameters limit r
    | [] => []

/-- The parameters of a media type; those of plain text in ASCII if there is none. -/
def typeParameters (header : List Char) : List (String × String) :=
  let header := if header.head? == some ';' then "text/plain".toList ++ header else header
  let unreadable := [("charset", "US-ASCII")]
  match cutAt? (· == '/') (trimEnd isHttpSpace (header.dropWhile isHttpSpace)) with
  | none => unreadable
  | some (type, rest) =>
    let subtype := trimEnd isHttpSpace (rest.takeWhile (· != ';'))
    if isToken type && isToken subtype then
      parameters (rest.length + 1) ((cutAt? (· == ';') rest).elim [] (·.2))
    else unreadable

/-! ## The body -/

/-- The header without the mark that the body is in base 64, if it ends in the mark. -/
def withoutBase64? (header : List Char) : Option (List Char) :=
  match header.reverse with
  | '4' :: '6' :: e :: s :: a :: b :: rest =>
    if [b, a, s, e].map Char.toLower == ['b', 'a', 's', 'e'] then
      match rest.dropWhile (· == ' ') with
      | ';' :: before => some before.reverse
      | _ => none
    else none
  | _ => none

/-- The six bits of a letter. -/
def base64Digit? (b : UInt8) : Option Nat :=
  let n := b.toNat
  if 65 ≤ n ∧ n ≤ 90 then some (n - 65)
  else if 97 ≤ n ∧ n ≤ 122 then some (n - 97 + 26)
  else if 48 ≤ n ∧ n ≤ 57 then some (n - 48 + 52)
  else if n = 43 then some 62
  else if n = 47 then some 63
  else none

/-- The bytes of groups of four letters, the last of which may be shorter. -/
def base64Bytes? : List Nat → Option (List UInt8)
  | a :: b :: c :: d :: rest =>
    let n := ((a * 64 + b) * 64 + c) * 64 + d
    (base64Bytes? rest).map fun more =>
      UInt8.ofNat (n / 65536) :: UInt8.ofNat (n / 256 % 256) :: UInt8.ofNat (n % 256) :: more
  | [a, b, c] =>
    let n := (a * 64 + b) * 64 + c
    some [UInt8.ofNat (n / 1024), UInt8.ofNat (n / 4 % 256)]
  | [a, b] => some [UInt8.ofNat ((a * 64 + b) / 16)]
  | [_] => none
  | [] => some []

/-- The bytes of a text in base 64. White space does not count; padding may be left out, but not
in part. -/
def base64? (body : List UInt8) : Option (List UInt8) :=
  let body := body.filter fun b => !Ascii.isWhitespace (Char.ofNat b.toNat)
  let letters := body.takeWhile (· != 0x3d)
  let padding := body.drop letters.length
  match letters.mapM base64Digit? with
  | none => none
  | some digits =>
    let missing := (4 - digits.length % 4) % 4
    if padding.all (· == 0x3d) && (padding.isEmpty || padding.length == missing) then
      base64Bytes? digits
    else none

/-- A resource: the parameters of its media type and its bytes. -/
structure Resource where
  parameters : List (String × String)
  body : List UInt8

/-- The resource that a `data:` URL holds. -/
def resource? (u : Url) : Option Resource :=
  match cutAt? (· == ',') (u.resource.toList.drop 5) with
  | none => none
  | some (header, body) =>
    let header := trimEnd (· == ' ') (header.dropWhile (· == ' '))
    let bytes := Percent.decode body
    match withoutBase64? header with
    | some header => (base64? bytes).map fun bytes => ⟨typeParameters header, bytes⟩
    | none => some ⟨typeParameters header, bytes⟩

end StyleTree.DataUrl
