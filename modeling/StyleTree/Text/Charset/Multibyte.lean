import StyleTree.Text.Charset.Chinese
import StyleTree.Text.Charset.Traditional
import StyleTree.Text.Charset.Japanese
import StyleTree.Text.Charset.Korean

/-!
# Characters of several bytes

The encodings of East Asia. All of them contain ASCII. Bytes that stand for no character become one
replacement character, but an ASCII byte among them that can stand for itself does so.
-/

namespace StyleTree.Charset

def isBetween (low high b : UInt8) : Bool :=
  low ≤ b && b ≤ high

/-- The byte as an ASCII character. -/
def ascii? (b : UInt8) : Option Char :=
  if b < 0x80 then some (Char.ofNat b.toNat) else none

/-! ## Two bytes -/

/-- An encoding of characters of one and of two bytes. -/
structure PairCode where
  isLead : UInt8 → Bool
  single? : UInt8 → Option Char
  /-- The characters of two bytes; more than one where a mark combines with a letter. -/
  pair : UInt8 → UInt8 → List Char

def PairCode.decode (code : PairCode) : List UInt8 → List Char
  | [] => []
  | b :: rest =>
    if code.isLead b then
      match rest with
      | [] => ['\ufffd']
      | t :: after =>
        match code.pair b t with
        | [] =>
          if t < 0x80 then '\ufffd' :: code.decode (t :: after)
          else '\ufffd' :: code.decode after
        | cs => cs ++ code.decode after
    else (code.single? b).getD '\ufffd' :: code.decode rest

/-- The place of a second byte among those that are no control characters. -/
def column? (afterGap last b : UInt8) : Option Nat :=
  if isBetween 0x40 0x7e b then some (b.toNat - 0x40)
  else if isBetween afterGap last b then some (b.toNat - afterGap.toNat + 63)
  else none

/-- Traditional Chinese. -/
def traditional : PairCode where
  isLead := isBetween 0x81 0xfe
  single? := ascii?
  pair b t :=
    match column? 0xa1 0xfe t with
    | none => []
    | some column =>
      match (b.toNat - 0x81) * 157 + column with
      | 1133 => ['\u00ca', '\u0304']
      | 1135 => ['\u00ca', '\u030c']
      | 1164 => ['\u00ea', '\u0304']
      | 1166 => ['\u00ea', '\u030c']
      | number => (traditionalRows.get? number).toList

/-- Korean. -/
def korean : PairCode where
  isLead := isBetween 0x81 0xfe
  single? := ascii?
  pair b t :=
    if isBetween 0x41 0xfe t then
      (koreanRows.get? ((b.toNat - 0x81) * 190 + (t.toNat - 0x41))).toList
    else []

/-- The narrow katakana with the number. -/
def narrowKatakana (n : Nat) : Char :=
  Char.ofNat (0xff61 + n)

/-- Japanese, with narrow katakana in the gap of the first bytes. -/
def shiftedJapanese : PairCode where
  isLead b := isBetween 0x81 0x9f b || isBetween 0xe0 0xfc b
  single? b :=
    if b ≤ 0x80 then some (Char.ofNat b.toNat)
    else if isBetween 0xa1 0xdf b then some (narrowKatakana (b.toNat - 0xa1))
    else none
  pair b t :=
    match column? 0x80 0xfc t with
    | none => []
    | some column =>
      let number := (b.toNat - if b < 0xa0 then 0x81 else 0xc1) * 188 + column
      -- Ten rows are for private use.
      if 8836 ≤ number ∧ number ≤ 10715 then [Char.ofNat (0xe000 + (number - 8836))]
      else (kanjiRows.get? number).toList

/-! ## Japanese in three sets -/

def isKanjiByte (b : UInt8) : Bool :=
  isBetween 0xa1 0xfe b

def kanjiNumber (b t : UInt8) : Nat :=
  (b.toNat - 0xa1) * 94 + (t.toNat - 0xa1)

/-- Japanese, in which a first byte tells narrow katakana and the supplementary characters from the
common ones. -/
def decodeExtendedJapanese : List UInt8 → List Char
  | [] => []
  | b :: rest =>
    if b = 0x8e ∨ b = 0x8f ∨ isKanjiByte b then
      match rest with
      | [] => ['\ufffd']
      | t :: after =>
        if b = 0x8e ∧ isBetween 0xa1 0xdf t then
          narrowKatakana (t.toNat - 0xa1) :: decodeExtendedJapanese after
        else if b = 0x8f ∧ isKanjiByte t then
          match after with
          | [] => ['\ufffd']
          | u :: after =>
            match if isKanjiByte u then extraKanjiRows.get? (kanjiNumber t u) else none with
            | some c => c :: decodeExtendedJapanese after
            | none =>
              if u < 0x80 then '\ufffd' :: decodeExtendedJapanese (u :: after)
              else '\ufffd' :: decodeExtendedJapanese after
        else
          let known := isKanjiByte b && isKanjiByte t
          match if known then kanjiRows.get? (kanjiNumber b t) else none with
          | some c => c :: decodeExtendedJapanese after
          | none =>
            if t < 0x80 then '\ufffd' :: decodeExtendedJapanese (t :: after)
            else '\ufffd' :: decodeExtendedJapanese after
    else (ascii? b).getD '\ufffd' :: decodeExtendedJapanese rest

/-! ## Simplified Chinese -/

/-- Blocks of two bytes that are for private use: the first bytes, the second bytes and the first
code point. -/
def chinesePrivate? (b : Nat) (column : Nat) : Option Char :=
  if 0xaa ≤ b ∧ b ≤ 0xaf ∧ 96 ≤ column then
    some (Char.ofNat (0xe000 + (b - 0xaa) * 94 + (column - 96)))
  else if 0xf8 ≤ b ∧ b ≤ 0xfe ∧ 96 ≤ column then
    some (Char.ofNat (0xe234 + (b - 0xf8) * 94 + (column - 96)))
  else if 0xa1 ≤ b ∧ b ≤ 0xa7 ∧ column < 96 then
    some (Char.ofNat (0xe4c6 + (b - 0xa1) * 96 + column))
  else none

def chinesePair? (b t : UInt8) : Option Char :=
  match column? 0x80 0xfe t with
  | none => none
  | some column =>
    (chineseRows.get? ((b.toNat - 0x81) * 190 + column)).or (chinesePrivate? b.toNat column)

/-- The character of four bytes with the number. -/
def chineseOfNumber? (n : Nat) : Option Char :=
  if 39419 < n ∧ n < 189000 ∨ 1237575 < n then none
  else if n = 7457 then some '\ue7c7'
  else
    match (chineseRanges.takeWhile (·.1 ≤ n)).getLast? with
    | some (start, point) => some (Char.ofNat (point + (n - start)))
    | none => none

def isChineseDigit (b : UInt8) : Bool :=
  isBetween 0x30 0x39 b

def isChineseLead (b : UInt8) : Bool :=
  isBetween 0x81 0xfe b

/-- Simplified Chinese. A digit as second byte starts a character of four bytes. -/
def decodeChinese : List UInt8 → List Char
  | [] => []
  | b :: rest =>
    if isChineseLead b then
      match rest with
      | [] => ['\ufffd']
      | t :: after =>
        if isChineseDigit t then
          match after with
          | [] => ['\ufffd']
          | u :: after =>
            if isChineseLead u then
              match after with
              | [] => ['\ufffd']
              | v :: after =>
                if isChineseDigit v then
                  let number := (((b.toNat - 0x81) * 10 + (t.toNat - 0x30)) * 126 +
                    (u.toNat - 0x81)) * 10 + (v.toNat - 0x30)
                  (chineseOfNumber? number).getD '\ufffd' :: decodeChinese after
                else '\ufffd' :: decodeChinese (t :: u :: v :: after)
            else '\ufffd' :: decodeChinese (t :: u :: after)
        else
          match chinesePair? b t with
          | some c => c :: decodeChinese after
          | none =>
            if t < 0x80 then '\ufffd' :: decodeChinese (t :: after)
            else '\ufffd' :: decodeChinese after
    else (if b = 0x80 then some '\u20ac' else ascii? b).getD '\ufffd' :: decodeChinese rest

/-! ## Japanese in seven bits -/

/-- The set of characters that bytes stand for. -/
inductive JapaneseSet where
  | ascii
  /-- ASCII with a yen sign and an overline. -/
  | roman
  | katakana
  /-- Two bytes for a character. -/
  | kanji
deriving DecidableEq, Repr, Inhabited

/-- The set that the bytes after an escape character switch to. -/
def JapaneseSet.ofEscape? : UInt8 → UInt8 → Option JapaneseSet
  | 0x28, 0x42 => some .ascii
  | 0x28, 0x4a => some .roman
  | 0x28, 0x49 => some .katakana
  | 0x24, 0x40 | 0x24, 0x42 => some .kanji
  | _, _ => none

/-- The character of one byte in the set. -/
def JapaneseSet.char? (set : JapaneseSet) (b : UInt8) : Option Char :=
  match set with
  | .kanji => none
  | .katakana => if isBetween 0x21 0x5f b then some (narrowKatakana (b.toNat - 0x21)) else none
  | .ascii | .roman =>
    if b = 0x0e ∨ b = 0x0f then none
    else if set = .roman ∧ b = 0x5c then some '\u00a5'
    else if set = .roman ∧ b = 0x7e then some '\u203e'
    else ascii? b

/-- Japanese, in which escapes switch from set to set. An escape right after another one is an
error of its own; `fresh` is set between them. -/
def decodeSwitchedJapanese : JapaneseSet → Bool → List UInt8 → List Char
  | _, _, [] => []
  | set, fresh, 0x1b :: rest =>
    match rest with
    | a :: b :: after =>
      match JapaneseSet.ofEscape? a b with
      | some set =>
        (if fresh then ['\ufffd'] else []) ++ decodeSwitchedJapanese set true after
      | none => '\ufffd' :: decodeSwitchedJapanese set false (a :: b :: after)
    | rest => '\ufffd' :: decodeSwitchedJapanese set false rest
  | .kanji, _, b :: rest =>
    if isBetween 0x21 0x7e b then
      match rest with
      | [] => ['\ufffd']
      | t :: after =>
        if t = 0x1b then '\ufffd' :: decodeSwitchedJapanese .kanji false (t :: after)
        else
          (if isBetween 0x21 0x7e t then
            (kanjiRows.get? ((b.toNat - 0x21) * 94 + (t.toNat - 0x21))).getD '\ufffd'
          else '\ufffd') :: decodeSwitchedJapanese .kanji false after
    else '\ufffd' :: decodeSwitchedJapanese .kanji false rest
  | set, _, b :: rest => (set.char? b).getD '\ufffd' :: decodeSwitchedJapanese set false rest

end StyleTree.Charset
