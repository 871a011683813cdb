import StyleTree.Url.Basic
import StyleTree.Url.Percent
import StyleTree.Url.Reference

/-!
# Reading paths

A path is read segment by segment. Dot segments take back what is written already, and a segment
that names a drive is never taken back.
-/

namespace StyleTree.Url

/-! ## Segments with a meaning -/

/-- `.` in one of its spellings. -/
def isSingleDot (s : List Char) : Bool :=
  [".", "%2e"].contains (String.ofList (s.map Char.toLower))

/-- `..` in one of its spellings. -/
def isDoubleDot (s : List Char) : Bool :=
  ["..", ".%2e", "%2e.", "%2e%2e"].contains (String.ofList (s.map Char.toLower))

/-- A letter and a colon or bar, which names a drive in the path of a file. -/
def isDrive (s : List Char) : Bool :=
  match s with
  | [c, d] => Ascii.isAlpha c && (d == ':' || d == '|')
  | _ => false

/-- The text starts with a drive, and with nothing else before the next slash. -/
def startsWithDrive (s : List Char) : Bool :=
  isDrive (s.take 2) && (s.drop 2).head?.all (isSlash true)

def isNormalDrive (s : String) : Bool :=
  isDrive s.toList && s.toList.getLast? == some ':'

/-- A drive, and the rest of its segment that a tab or line break keeps apart from it. -/
def cutDrive? (s : List Char) : Option (List Char × List Char) :=
  match next? s with
  | some (c, r) =>
    match next? r with
    | some (':', b :: t) =>
      if Ascii.isAlpha c && isBreak b && !(unbroken t).isEmpty then some ([c, ':'], unbroken t)
      else none
    | _ => none
  | none => none

/-! ## The path so far -/

/-- A path as far as it has been read: the segments that a slash ends, and the text after the last
slash. -/
structure OpenPath where
  segments : List String
  start : String
  /-- The path starts with a drive that the text has named. -/
  onDrive : Bool
deriving DecidableEq, Repr, Inhabited

namespace OpenPath

/-- The path that is a single slash. -/
def root : OpenPath :=
  ⟨[], "", false⟩

/-- The path after a slash. -/
def close (p : OpenPath) : OpenPath :=
  { p with segments := p.segments ++ [p.start], start := "" }

/-- The path with a slash at its end. -/
def closed (p : OpenPath) : OpenPath :=
  if p.start = "" then p else p.close

/-- The path after `..`: its last segment is taken back unless it starts with a drive. -/
def ascend (p : OpenPath) : OpenPath :=
  if p.segments.getLast?.any (startsWithDrive ·.toList) then p
  else { p with segments := p.segments.dropLast }

/-- The path after text of one segment. -/
def append (p : OpenPath) (s : List Char) : OpenPath :=
  { p with start := p.start ++ String.ofList (Percent.encode Percent.inPath s) }

/-- Nothing follows the first slash yet. -/
def isRoot (p : OpenPath) : Bool :=
  p.segments.isEmpty && p.start = ""

/-- The path of a file, ready for text: a slash follows its drive. -/
def afterDrive (p : OpenPath) : OpenPath :=
  if p.segments.isEmpty && isNormalDrive p.start then p.close else p

/-- The path after a segment that is neither `.` nor `..`. -/
def addName (file : Bool) (p : OpenPath) (s : List Char) : OpenPath :=
  if file && p.isRoot && isDrive s then
    { p with start := String.ofList [s.headD 'a', ':'], onDrive := true }
  else p.append s

/-- The path after one more segment; `last` if no slash follows it. -/
def addSegment (file : Bool) (p : OpenPath) (s : List Char) (last : Bool) : OpenPath :=
  match (if file && p.isRoot then cutDrive? s else none) with
  | some (drive, rest) =>
    let p := (p.append drive).close.append rest
    if last then p else p.close
  | none =>
    let s := unbroken s
    let p := if file && !s.isEmpty then p.afterDrive else p
    if isDoubleDot s then
      if p.start = "" then p.ascend else if last then p else p.close
    else if isSingleDot s then p.closed
    else if last then p.addName file s
    else (p.addName file s).close

def addSegments (file : Bool) : OpenPath → List (List Char) → OpenPath
  | p, [] => p
  | p, [s] => p.addSegment file s true
  | p, s :: rest => addSegments file (p.addSegment file s false) rest

/-- The path after the text. -/
def read (scheme : String) (p : OpenPath) (s : List Char) : OpenPath :=
  p.addSegments (scheme = "file") (pieces (isSlash (isSpecial scheme)) s)

/-- The path as it is written. The path of a file has no empty segments at its start. -/
def toPath (scheme : String) (p : OpenPath) : UrlPath :=
  let segments := p.segments ++ [p.start]
  if scheme = "file" then
    match segments.dropWhile (· = "") with
    | [] => .segments [""]
    | named => .segments named
  else .segments segments

/-- The path without its last segment. A drive at the end stays. -/
def parent (scheme : String) (path : List String) : OpenPath :=
  match path.getLast? with
  | some d =>
    if scheme = "file" && isNormalDrive d then ⟨path.dropLast, d, false⟩
    else ⟨path.dropLast, "", false⟩
  | none => root

end OpenPath

/-- The path after an authority. -/
def rootPath (scheme : String) (s : List Char) : OpenPath :=
  match s with
  | c :: r =>
    if isSlash (isSpecial scheme) c then OpenPath.root.read scheme r
    else OpenPath.root.read scheme s
  | [] => OpenPath.root.read scheme []

end StyleTree.Url
