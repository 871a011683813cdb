import StyleTree.Text.Split

/-!
# Language tags

Extended filtering of language tags by ranges. Tags and ranges are lists of subtags between
hyphens. The subtags of a range have to occur in the tag in their order; what lies between them
may be skipped unless it is a single character, and `*` stands for whatever may be skipped.
-/

namespace StyleTree.Language

/-- The pieces between the hyphens. -/
def subtags (s : String) : List String :=
  (pieces (· == '-') s.toList).map String.ofList

/-- `*`, or one to eight letters and digits. -/
def isRangeSubtag (s : String) : Bool :=
  s == "*" ||
    (!s.isEmpty && s.utf8ByteSize ≤ 8 && s.toList.all Ascii.isAlphanumeric)

/-- The subtags of a range after its first one occur in the subtags of the tag after its first. -/
def restMatches : List String → List String → Bool
  | [], _ => true
  | r :: rs, ts =>
    if r = "*" then restMatches rs ts
    else
      match ts with
      | [] => false
      | t :: ts =>
        if Ascii.eqIgnoreCase r t then restMatches rs ts
        -- A single character opens a part of the tag that cannot be skipped.
        else if t.utf8ByteSize = 1 then false
        else restMatches (r :: rs) ts
termination_by rs ts => rs.length + ts.length

/-- The language tag is in the range. A malformed range holds no language. -/
def inRange (language range : String) : Bool :=
  let rs := subtags range
  rs.all isRangeSubtag && !language.isEmpty &&
    match rs, subtags language with
    | r :: rs, t :: ts => (r == "*" || Ascii.eqIgnoreCase r t) && restMatches rs ts
    | _, _ => false

end StyleTree.Language
