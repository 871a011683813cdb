import StyleTree.Json.Record
import StyleTree.Text.Blank
import StyleTree.Text.Split
import StyleTree.Url.Parser

/-!
# Options of a document

What is decided about a document before it has any content, and how that is written as JSON.
-/

namespace StyleTree

/-- Whether a page follows the rules of today, or those of pages without a doctype. -/
inductive Mode where
  | strict
  | quirks
deriving DecidableEq, Repr, Inhabited

namespace Mode

def isQuirks : Mode → Bool
  | quirks => true
  | strict => false

/-- The key for the mode. -/
def name : Mode → String
  | strict => "strict"
  | quirks => "quirks"

def ofName? (s : String) : Option Mode :=
  [strict, quirks].find? (·.name == s)

/-- A mode is written by its key, or as an object with the key alone. -/
def ofJson? : Json → Option Mode
  | .string s => ofName? s
  | .object [(s, .null)] => ofName? s
  | _ => none

end Mode

/-! ## Flags -/

/-- Flags for reading style text, a bit each. -/
structure ParserFlags where
  bits : UInt8
deriving DecidableEq, Repr, Inhabited

namespace ParserFlags

def none : ParserFlags := ⟨0⟩

/-- The bits that have a name, lowest first. -/
def named : List (String × UInt8) :=
  [("REPORT_CSS_ERRORS", 1), ("IGNORE_STYLE_ATTRIBUTES", 2), ("IGNORE_PRESENTATIONAL_HINTS", 4)]

def has (f : ParserFlags) (bit : UInt8) : Bool :=
  f.bits &&& bit != 0

def ignoresStyleAttributes (f : ParserFlags) : Bool :=
  f.has 2

def ignoresHints (f : ParserFlags) : Bool :=
  f.has 4

/-- The bits without a name. -/
def unnamed (f : ParserFlags) : UInt8 :=
  named.foldl (fun bits p => bits &&& ~~~p.2) f.bits

/-- The digits after `0x`. -/
def hexText (n : Nat) : String :=
  String.ofList <|
    if n < 16 then [Ascii.hexChar n] else [Ascii.hexChar (n / 16), Ascii.hexChar (n % 16)]

/-- The names of the flags, and the other bits as one number. -/
def text (f : ParserFlags) : String :=
  let rest := f.unnamed
  " | ".intercalate ((named.filter (f.has ·.2)).map (·.1) ++
    if rest = 0 then [] else ["0x" ++ hexText rest.toNat])

/-- A number below 256, perhaps with a plus sign. -/
def hexBits? (s : List Char) : Option UInt8 :=
  let digits := if s.head? = some '+' then s.tail else s
  if digits.isEmpty then .none
  else
    match digits.mapM Ascii.hexDigit? with
    | .none => .none
    | some ds =>
      let n := ds.foldl (fun n d => n * 16 + d) 0
      if n < 256 then some (UInt8.ofNat n) else .none

/-- The bits of one entry: the name of a flag or a number. -/
def flagBits? : List Char → Option UInt8
  | '0' :: 'x' :: digits => hexBits? digits
  | name => (named.find? (·.1.toList == name)).map (·.2)

/-- The flags that a text lists between bars. -/
def parse? (s : String) : Option ParserFlags :=
  if (trimBlank s.toList).isEmpty then some .none
  else
    ((pieces (· == '|') s.toList).mapM (flagBits? <| trimBlank ·)).map fun bits =>
      ⟨bits.foldl (· ||| ·) 0⟩

end ParserFlags

/-! ## Options -/

structure Options where
  /-- If absent, the mode depends on whether there is a doctype. -/
  mode : Option Mode
  /-- The document is an HTML document, else it is an XML document. -/
  html : Bool
  /-- Computed styles are kept between reads. -/
  styleCache : Bool
  parserFlags : ParserFlags
  /-- The medium that style sheets are chosen for. -/
  medium : String
  url : Option Url
deriving DecidableEq, Repr

namespace Options

def default : Options :=
  ⟨none, true, true, .none, "screen", none⟩

instance : Inhabited Options := ⟨default⟩

def fieldNames : List String :=
  ["compliance_mode", "html", "style_cache", "parser_flags", "target_medium", "url"]

/-- The options that a record describes; every field can be left out. -/
def ofJson? (j : Json) : Option Options := do
  match ← j.fields? fieldNames with
  | [mode, html, styleCache, parserFlags, medium, url] =>
    return {
      mode := ← Json.orDefault? (Json.nullable? Mode.ofJson?) none mode
      html := ← Json.orDefault? Json.bool? true html
      styleCache := ← Json.orDefault? Json.bool? true styleCache
      parserFlags := ←
        Json.orDefault? (fun v => v.string?.bind ParserFlags.parse?) .none parserFlags
      medium := ← Json.orDefault? Json.string? "screen" medium
      url := ← Json.orDefault? (Json.nullable? fun v => v.string?.bind Url.ofString?) none url
    }
  | _ => none

def toJson (o : Options) : Json :=
  .object (fieldNames.zip [
    o.mode.elim .null fun m => .string m.name,
    .bool o.html,
    .bool o.styleCache,
    .string o.parserFlags.text,
    .string o.medium,
    o.url.elim .null fun u => .string u.text])

end Options

end StyleTree
