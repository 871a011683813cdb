import StyleTree.Text.Ascii
import StyleTree.Text.Utf8
import StyleTree.Text.Charset.Tables
import StyleTree.Text.Charset.Multibyte

/-!
# Character encodings

Encodings by their labels, and decoding. Bytes that stand for no character become replacement
characters, so decoding never fails. A byte order mark decides over the encoding that was asked
for.
-/

namespace StyleTree

inductive Charset where
  | utf8
  | utf16 (bigEndian : Bool)
  /-- One byte for a character: ASCII, and the table for the bytes from 128 on. -/
  | singleByte (upper : String)
  /-- One byte for a character; the bytes from 128 on stand for private characters. -/
  | userDefined
  | pairs (code : Charset.PairCode)
  | chinese
  | extendedJapanese
  | switchedJapanese
  /-- An encoding that is not decoded: all text is one replacement character. -/
  | replacement

namespace Charset

/-! ## Labels -/

/-- The encodings with their labels. -/
def labels : List (Charset × List String) :=
  [(.utf8, ["unicode-1-1-utf-8", "unicode11utf8", "unicode20utf8", "utf-8", "utf8",
      "x-unicode20utf8"]),
    (.singleByte ibm866, ["866", "cp866", "csibm866", "ibm866"]),
    (.singleByte iso88592, ["csisolatin2", "iso-8859-2", "iso-ir-101", "iso8859-2", "iso88592",
      "iso_8859-2", "iso_8859-2:1987", "l2", "latin2"]),
    (.singleByte iso88593, ["csisolatin3", "iso-8859-3", "iso-ir-109", "iso8859-3", "iso88593",
      "iso_8859-3", "iso_8859-3:1988", "l3", "latin3"]),
    (.singleByte iso88594, ["csisolatin4", "iso-8859-4", "iso-ir-110", "iso8859-4", "iso88594",
      "iso_8859-4", "iso_8859-4:1988", "l4", "latin4"]),
    (.singleByte iso88595, ["csisolatincyrillic", "cyrillic", "iso-8859-5", "iso-ir-144",
      "iso8859-5", "iso88595", "iso_8859-5", "iso_8859-5:1988"]),
    (.singleByte iso88596, ["arabic", "asmo-708", "csiso88596e", "csiso88596i", "csisolatinarabic",
      "ecma-114", "iso-8859-6", "iso-8859-6-e", "iso-8859-6-i", "iso-ir-127", "iso8859-6",
      "iso88596", "iso_8859-6", "iso_8859-6:1987"]),
    (.singleByte iso88597, ["csisolatingreek", "ecma-118", "elot_928", "greek", "greek8",
      "iso-8859-7", "iso-ir-126", "iso8859-7", "iso88597", "iso_8859-7", "iso_8859-7:1987",
      "sun_eu_greek"]),
    (.singleByte iso88598, ["csiso88598e", "csisolatinhebrew", "hebrew", "iso-8859-8",
      "iso-8859-8-e", "iso-ir-138", "iso8859-8", "iso88598", "iso_8859-8", "iso_8859-8:1988",
      "visual", "csiso88598i", "iso-8859-8-i", "logical"]),
    (.singleByte iso885910, ["csisolatin6", "iso-8859-10", "iso-ir-157", "iso8859-10",
      "iso885910", "l6", "latin6"]),
    (.singleByte iso885913, ["iso-8859-13", "iso8859-13", "iso885913"]),
    (.singleByte iso885914, ["iso-8859-14", "iso8859-14", "iso885914"]),
    (.singleByte iso885915, ["csisolatin9", "iso-8859-15", "iso8859-15", "iso885915",
      "iso_8859-15", "l9"]),
    (.singleByte iso885916, ["iso-8859-16"]),
    (.singleByte koi8r, ["cskoi8r", "koi", "koi8", "koi8-r", "koi8_r"]),
    (.singleByte koi8u, ["koi8-ru", "koi8-u"]),
    (.singleByte macintosh, ["csmacintosh", "mac", "macintosh", "x-mac-roman"]),
    (.singleByte windows874, ["dos-874", "iso-8859-11", "iso8859-11", "iso885911", "tis-620",
      "windows-874"]),
    (.singleByte windows1250, ["cp1250", "windows-1250", "x-cp1250"]),
    (.singleByte windows1251, ["cp1251", "windows-1251", "x-cp1251"]),
    (.singleByte windows1252, ["ansi_x3.4-1968", "ascii", "cp1252", "cp819", "csisolatin1",
      "ibm819", "iso-8859-1", "iso-ir-100", "iso8859-1", "iso88591", "iso_8859-1",
      "iso_8859-1:1987", "l1", "latin1", "us-ascii", "windows-1252", "x-cp1252"]),
    (.singleByte windows1253, ["cp1253", "windows-1253", "x-cp1253"]),
    (.singleByte windows1254, ["cp1254", "csisolatin5", "iso-8859-9", "iso-ir-148", "iso8859-9",
      "iso88599", "iso_8859-9", "iso_8859-9:1989", "l5", "latin5", "windows-1254", "x-cp1254"]),
    (.singleByte windows1255, ["cp1255", "windows-1255", "x-cp1255"]),
    (.singleByte windows1256, ["cp1256", "windows-1256", "x-cp1256"]),
    (.singleByte windows1257, ["cp1257", "windows-1257", "x-cp1257"]),
    (.singleByte windows1258, ["cp1258", "windows-1258", "x-cp1258"]),
    (.singleByte macCyrillic, ["x-mac-cyrillic", "x-mac-ukrainian"]),
    (.chinese, ["chinese", "csgb2312", "csiso58gb231280", "gb2312", "gb_2312", "gb_2312-80", "gbk",
      "iso-ir-58", "x-gbk", "gb18030"]),
    (.pairs traditional, ["big5", "big5-hkscs", "cn-big5", "csbig5", "x-x-big5"]),
    (.extendedJapanese, ["cseucpkdfmtjapanese", "euc-jp", "x-euc-jp"]),
    (.switchedJapanese, ["csiso2022jp", "iso-2022-jp"]),
    (.pairs shiftedJapanese, ["csshiftjis", "ms932", "ms_kanji", "shift-jis", "shift_jis", "sjis",
      "windows-31j", "x-sjis"]),
    (.pairs korean, ["cseuckr", "csksc56011987", "euc-kr", "iso-ir-149", "korean",
      "ks_c_5601-1987", "ks_c_5601-1989", "ksc5601", "ksc_5601", "windows-949"]),
    (.replacement, ["csiso2022kr", "hz-gb-2312", "iso-2022-cn", "iso-2022-cn-ext", "iso-2022-kr",
      "replacement"]),
    (.utf16 true, ["unicodefffe", "utf-16be"]),
    (.utf16 false, ["csunicode", "iso-10646-ucs-2", "ucs-2", "unicode", "unicodefeff", "utf-16",
      "utf-16le"]),
    (.userDefined, ["x-user-defined"])]

/-- The encoding with the label, in any case and with ASCII white space around it. -/
def ofLabel? (label : String) : Option Charset :=
  let trimmed := ((Ascii.trimStart label.toList).reverse.dropWhile Ascii.isWhitespace).reverse
  let key := String.ofList (trimmed.map Char.toLower)
  (labels.find? (·.2.contains key)).map (·.1)

/-! ## Decoding -/

/-- The units of two bytes; `none` for a byte left over. -/
def units (bigEndian : Bool) : List UInt8 → List (Option Nat)
  | a :: b :: rest =>
    some (if bigEndian then a.toNat * 256 + b.toNat else b.toNat * 256 + a.toNat) ::
      units bigEndian rest
  | [_] => [none]
  | [] => []

def isHighSurrogate (n : Nat) : Bool :=
  0xd800 ≤ n && n ≤ 0xdbff

def isLowSurrogate (n : Nat) : Bool :=
  0xdc00 ≤ n && n ≤ 0xdfff

/-- The characters of the units, after a surrogate that waits for its partner. -/
def decodeUnits : Option Nat → List (Option Nat) → List Char
  | none, [] => []
  | some _, [] => ['\ufffd']
  | _, none :: _ => ['\ufffd']
  | none, some n :: rest =>
    if isHighSurrogate n then decodeUnits (some n) rest
    else (if isLowSurrogate n then '\ufffd' else Char.ofNat n) :: decodeUnits none rest
  | some h, some n :: rest =>
    if isLowSurrogate n then
      Char.ofNat (0x10000 + (h - 0xd800) * 0x400 + (n - 0xdc00)) :: decodeUnits none rest
    else if isHighSurrogate n then '\ufffd' :: decodeUnits (some n) rest
    else '\ufffd' :: Char.ofNat n :: decodeUnits none rest

/-- The characters of the bytes, whatever mark they start with. -/
def decodeBody (c : Charset) (bytes : List UInt8) : List Char :=
  match c with
  | utf8 => Utf8.decode bytes
  | utf16 bigEndian => decodeUnits none (units bigEndian bytes)
  | singleByte upper =>
    let table := upper.toList
    bytes.map fun b => if b < 0x80 then Char.ofNat b.toNat else table.getD (b.toNat - 0x80) '\ufffd'
  | userDefined =>
    bytes.map fun b => Char.ofNat (if b < 0x80 then b.toNat else 0xf780 + (b.toNat - 0x80))
  | pairs code => code.decode bytes
  | chinese => decodeChinese bytes
  | extendedJapanese => decodeExtendedJapanese bytes
  | switchedJapanese => decodeSwitchedJapanese .ascii false bytes
  | replacement => if bytes.isEmpty then [] else ['\ufffd']

/-- The encoding that the byte order mark at the start names, and the bytes after it. -/
def mark? : List UInt8 → Option (Charset × List UInt8)
  | 0xef :: 0xbb :: 0xbf :: rest => some (utf8, rest)
  | 0xfe :: 0xff :: rest => some (utf16 true, rest)
  | 0xff :: 0xfe :: rest => some (utf16 false, rest)
  | _ => none

/-- The text of the bytes, in the encoding of their byte order mark or else in `c`. -/
def decode (c : Charset) (bytes : List UInt8) : String :=
  match mark? bytes with
  | some (c, rest) => String.ofList (c.decodeBody rest)
  | none => String.ofList (c.decodeBody bytes)

end Charset

end StyleTree
