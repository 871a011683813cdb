import StyleTree.Css.ComponentValue

/-!
# Rule lists

A style sheet, or the body of a block that holds rules, cut into its rules. A rule with a keyword
ends at a semicolon or with a block in braces, any other rule only with such a block. What a rule
means is decided by who reads it.
-/

namespace StyleTree.Css

/-! ## Locations -/

/-- A place in a text: lines count from zero, columns from one in UTF-16 units. -/
structure Location where
  line : Nat
  column : Nat
deriving DecidableEq, Repr, Inhabited

namespace Location

/-- Where a text starts. -/
def start : Location := ⟨0, 1⟩

def nextLine (l : Location) : Location :=
  ⟨l.line + 1, 1⟩

/-- The place behind a text that starts here. A carriage return and the line feed after it end one
line. -/
def advance (l : Location) : List Char → Location
  | [] => l
  | '\r' :: '\n' :: r => l.nextLine.advance r
  | c :: r =>
    if isNewline c then l.nextLine.advance r
    else advance ⟨l.line, l.column + (if c.toNat < 0x10000 then 1 else 2)⟩ r

end Location

/-! ## Rules -/

/-- A rule by its parts. -/
structure RawRule where
  /-- The keyword after the at sign, if the rule starts with one. -/
  keyword : Option String
  prelude : List ComponentValue
  /-- The contents of the block in braces; only a rule with a keyword can do without. -/
  body : Option (List ComponentValue)
  start : Location
  bodyStart : Location
deriving Inhabited

namespace RawRule

/-- Nothing that stands between two rules means anything: white space, comments and the marks that
once hid style sheets. -/
def isGap : ComponentValue → Bool
  | .token l => l.token.isBlank || l.token == .commentOpen || l.token == .commentClose
  | .block .. => false

/-- A block in braces. -/
def isBraces : ComponentValue → Bool
  | .block o _ _ => o.token == .curlyOpen
  | .token _ => false

/-- A block in braces or a semicolon. -/
def isEnd (v : ComponentValue) : Bool :=
  isBraces v || v.isToken .semicolon

/-- The keyword of a rule and the values after it. -/
def keyword? : List ComponentValue → Option String × List ComponentValue
  | .token ⟨.atKeyword name, _, _⟩ :: rest => (some name, rest)
  | vs => (none, vs)

/-- The first rule of a list that starts at `start` and is not in a gap, and the values after it.
None if the values end before the rule does. -/
def first? (start : Location) (vs : List ComponentValue) :
    Option (RawRule × List ComponentValue) :=
  let (keyword, rest) := keyword? vs
  let ends := if keyword.isSome then isEnd else isBraces
  let prelude := rest.takeWhile (!ends ·)
  let before := textOf (vs.take (vs.length - rest.length) ++ prelude)
  match rest.dropWhile (!ends ·) with
  | .block o body _ :: after =>
    some (⟨keyword, prelude, some body, start, start.advance (before ++ o.text)⟩, after)
  | .token _ :: after => some (⟨keyword, prelude, none, start, start⟩, after)
  | [] => none

theorem length_dropWhile_le {α : Type} (p : α → Bool) (l : List α) :
    (l.dropWhile p).length ≤ l.length :=
  (List.dropWhile_sublist p).length_le

theorem length_keyword?_le (vs : List ComponentValue) : (keyword? vs).2.length ≤ vs.length := by
  unfold keyword?
  split <;> simp

theorem length_first?_lt {start : Location} {vs rest : List ComponentValue} {r : RawRule}
    (h : first? start vs = some (r, rest)) : rest.length < vs.length := by
  simp only [first?] at h
  have hk := length_keyword?_le vs
  have hd := length_dropWhile_le (fun v => !(if (keyword? vs).1.isSome then isEnd else isBraces) v)
    (keyword? vs).2
  split at h
  case h_1 heq | h_2 heq =>
    rw [heq, List.length_cons] at hd
    obtain ⟨-, rfl⟩ := Prod.mk.inj (Option.some.inj h)
    omega
  case h_3 => simp at h

/-- The rules of a list that starts at `start`. -/
def list (start : Location) (vs : List ComponentValue) : List RawRule :=
  let rest := vs.dropWhile isGap
  let here := start.advance (textOf (vs.takeWhile isGap))
  match _h : first? here rest with
  | some (r, after) =>
    r :: list (here.advance (textOf (rest.take (rest.length - after.length)))) after
  | none => []
termination_by vs.length
decreasing_by
  exact Nat.lt_of_lt_of_le (length_first?_lt _h) (length_dropWhile_le isGap vs)

end RawRule

end StyleTree.Css
