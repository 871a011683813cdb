import StyleTree.Url.Basic
import StyleTree.Url.Host
import StyleTree.Url.Path

/-!
# Reading URLs

A text names a URL on its own or relative to another one. Its front says where the resource is;
the query and the fragment follow it.
-/

namespace StyleTree.Url

/-! ## Authorities -/

/-- The username and password before the last `@`, and the text after it. -/
def credentials (s : List Char) : Option (List Char) × List Char :=
  match cutAt? (· == '@') s.reverse with
  | some (host, before) => (some before.reverse, host.reverse)
  | none => (none, s)

/-- The host and the text after the colon that follows it. A colon in brackets is part of it. -/
def cutPort (bracketed : Bool) : List Char → List Char × Option (List Char)
  | [] => ([], none)
  | c :: rest =>
    if c == ':' && !bracketed then ([], some rest)
    else
      let (host, port) := cutPort ((bracketed || c == '[') && c != ']') rest
      (c :: host, port)

/-- The port number, unless it is absent or implied; refused if it is no number of 16 bits. -/
def port? (scheme : String) (s : List Char) : Option (Option Nat) :=
  if s.isEmpty then some none
  else if s.all Ascii.isDigit then
    match Host.natOf? 10 s with
    | some n =>
      if n > 65535 then none
      else if defaultPort? scheme = some (some n) then some none
      else some (some n)
    | none => none
  else none

/-- The username and the password around the first colon. -/
def userAndPassword (s : List Char) : String × String :=
  let (username, password) := (cutAt? (· == ':') s).getD (s, [])
  (String.ofList (Percent.encode Percent.inUserinfo username),
    String.ofList (Percent.encode Percent.inUserinfo password))

/-- The host, if it may be empty where it is. -/
def hostOrEmpty? (scheme : String) (mayBeEmpty : Bool) (s : List Char) : Option String :=
  if s.isEmpty then if mayBeEmpty && !isSpecial scheme then some "" else none
  else Host.parse? (isSpecial scheme) s

/-- The authority that the text names, and what a backslash ends it before. The text `isLast` if
nothing of the reference follows it. -/
def authority? (scheme : String) (s : List Char) (isLast : Bool) :
    Option (Authority × List Char) :=
  let (who, whereto) := credentials s
  let (username, password) := userAndPassword (who.getD [])
  let (host, port) := cutPort false whereto
  let portText := port.getD []
  let digits := portText.takeWhile (· != '\\')
  if who = some [] && whereto.isEmpty && !isLast then none
  else
    match hostOrEmpty? scheme (username = "" && password = "" && port.isNone) host,
        port? scheme digits with
    | some host, some port =>
      some (⟨username, password, host, port⟩, portText.drop digits.length)
    | _, _ => none

/-- Where a reference leads, besides its query and fragment; `keepsQuery` if it does not say. -/
structure Location where
  authority : Option Authority
  path : UrlPath
  keepsQuery : Bool
deriving DecidableEq, Repr, Inhabited

/-- The place with the authority that the text starts with; the text `isLast` if nothing of the
reference follows it. -/
def withAuthority? (scheme : String) (s : List Char) (isLast : Bool) : Option Location :=
  let front := s.takeWhile (!isSlash (isSpecial scheme) ·)
  let rest := s.drop front.length
  (authority? scheme (unbroken front) (isLast && rest.isEmpty)).map fun (a, more) =>
    let rest := more ++ rest
    let path :=
      if rest.isEmpty && !isSpecial scheme then .segments []
      else (rootPath scheme rest).toPath scheme
    ⟨some a, path, false⟩

/-! ## Files -/

def emptyAuthority : Authority := ⟨"", "", "", none⟩

/-- The place with a host and a path of a file. -/
def fileAt (host : Option Authority) (p : OpenPath) : Location :=
  ⟨host.getD emptyAuthority, p.toPath "file", false⟩

/-- The file that the text after two slashes names. A host does not count beside a drive. -/
def fileWithHost? (s : List Char) : Option Location :=
  let front := s.takeWhile (!isSlash true ·)
  let rest := s.drop front.length
  let host := unbroken front
  if isDrive host then some (fileAt none (OpenPath.root.read "file" s))
  else if host.isEmpty then some (fileAt none (OpenPath.root.read "file" rest))
  else
    (Host.parse? true host).map fun h =>
      if h = "localhost" then fileAt none (OpenPath.root.read "file" rest)
      else
        let p := rootPath "file" rest
        fileAt (if p.onDrive then none else some { emptyAuthority with host := h }) p

def segmentsOf : UrlPath → List String
  | .segments list => list
  | .whole _ => []

/-- The file at the path from the root that follows one slash: on the drive or the host of the
base unless the path names a drive. -/
def fileFromRoot (base : Option Url) (s : List Char) : Location :=
  match base with
  | some b =>
    if startsWithDrive (unbroken s) then fileAt none (OpenPath.root.read "file" s)
    else
      match segmentsOf b.path with
      | d :: _ =>
        if isNormalDrive d then fileAt none (OpenPath.read "file" ⟨[d], "", false⟩ s)
        else fileAt b.authority (OpenPath.root.read "file" s)
      | [] => fileAt b.authority (OpenPath.root.read "file" s)
  | none => fileAt none (OpenPath.root.read "file" s)

/-- The file that the text names, relative to the file `base`. -/
def file? (base : Option Url) (s : List Char) : Option Location :=
  match next? s, base with
  | some (c, r), _ =>
    if isSlash true c then
      match next? r with
      | some (d, t) => if isSlash true d then fileWithHost? t else some (fileFromRoot base r)
      | none => some (fileFromRoot base r)
    else
      match base with
      | some b =>
        if startsWithDrive (unbroken s) then some (fileAt none (OpenPath.root.read "file" s))
        else
          let parent := OpenPath.parent "file" (segmentsOf b.path)
          some (fileAt b.authority (parent.read "file" s))
      | none => some (fileAt none (OpenPath.root.read "file" s))
  | none, some b => some ⟨b.authority, b.path, true⟩
  | none, none => some (fileAt none OpenPath.root)

/-! ## Other places -/

/-- What the text names relative to a URL with a path of segments, which is no file. -/
def relative? (base : Url) (s : List Char) (isLast : Bool) : Option Location :=
  let scheme := base.scheme
  let place (p : OpenPath) : Option Location := some ⟨base.authority, p.toPath scheme, false⟩
  match next? s with
  | none => some ⟨base.authority, base.path, true⟩
  | some (c, r) =>
    if isSlash true c then
      let (count, rest) := leadingSlashes s
      if count < 2 then place (OpenPath.root.read scheme r)
      else withAuthority? scheme ((afterTwoSlashes? s).getD rest) isLast
    else place ((OpenPath.parent scheme (segmentsOf base.path)).read scheme s)

/-- What the text after a scheme names. -/
def absolute? (base : Option Url) (scheme : String) (s : List Char) (isLast : Bool) :
    Option Location :=
  let sameScheme := base.filter (·.scheme == scheme)
  if scheme = "file" then file? sameScheme s
  else if isSpecial scheme then
    let (count, rest) := leadingSlashes s
    match sameScheme with
    | some b => if count < 2 then relative? b s isLast else withAuthority? scheme rest isLast
    | none => withAuthority? scheme rest isLast
  else
    match afterTwoSlashes? s, next? s with
    | some rest, _ => withAuthority? scheme rest isLast
    | none, some ('/', r) =>
      some ⟨none, (OpenPath.root.read scheme r).toPath scheme, false⟩
    | none, _ =>
      some ⟨none, .whole (String.ofList (Percent.encode Percent.isControl (unbroken s))), false⟩

/-! ## URLs -/

/-- The query as it is written. -/
def queryText (scheme : String) (q : List Char) : String :=
  let escaped := if isSpecial scheme then Percent.inSpecialQuery else Percent.inQuery
  String.ofList (Percent.encode escaped (unbroken q))

/-- The fragment as it is written. -/
def fragmentText (f : List Char) : String :=
  String.ofList (Percent.encode Percent.inFragment (unbroken f))

/-- The URL at a place, with the query and the fragment of the reference. -/
def ofLocation (base : Option Url) (scheme : String) (l : Location) (r : Reference) : Url :=
  let kept := if l.keepsQuery then base.bind (·.query) else none
  ⟨scheme, l.authority, l.path, (r.query.map (queryText scheme)).or kept,
    r.fragment.map fragmentText⟩

/-- The URL that the text names, relative to `base` if there is one. -/
def parse? (base : Option Url) (s : String) : Option Url :=
  let r := Reference.ofText (trimPadding s.toList)
  match scheme? r.front, base with
  | some (scheme, rest), _ =>
    (absolute? base scheme rest r.isFront).map (ofLocation base scheme · r)
  | none, none => none
  | none, some b =>
    match b.path with
    | .whole _ =>
      if (unbroken r.front).isEmpty && r.query.isNone && r.fragment.isSome then
        some { b with fragment := r.fragment.map fragmentText }
      else none
    | .segments _ =>
      let named := if b.scheme = "file" then file? base r.front else relative? b r.front r.isFront
      named.map (ofLocation base b.scheme · r)

/-- The URL that the text names on its own. -/
def ofString? (s : String) : Option Url :=
  parse? none s

/-- The URL that the text names relative to `base`. -/
def join? (base : Url) (s : String) : Option Url :=
  parse? (some base) s

end StyleTree.Url
