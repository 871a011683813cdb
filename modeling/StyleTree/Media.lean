import StyleTree.Text.Split
import StyleTree.Css.ComponentValue

/-!
# Media lists

The media that a style sheet or a block of rules is meant for. Only media types are evaluated: a
feature such as `(min-width: 30em)` is read for its block structure and taken to hold. A query
that cannot be read stays in the list and holds for no medium.
-/

namespace StyleTree

open Css

/-- One entry of a media list. -/
structure MediaQuery where
  negated : Bool
  /-- The lower-case media type; none stands for every medium. -/
  type : Option String
  /-- The query could not be read. -/
  invalid : Bool
deriving DecidableEq, Repr, Inhabited

namespace MediaQuery

/-- The query that a text stands for which cannot be read. -/
def unreadable : MediaQuery :=
  ⟨false, none, true⟩

/-- The query holds for the medium. -/
def holds (q : MediaQuery) (medium : String) : Bool :=
  !q.invalid && (q.type.all (Ascii.eqIgnoreCase · medium) != q.negated)

/-- The values after a feature, which is anything in parentheses. -/
def feature? (vs : List ComponentValue) : Option (List ComponentValue) :=
  match skipBlank vs with
  | .block ⟨.parenOpen, _, _⟩ _ _ :: rest => some rest
  | _ => none

/-- The values after any number of features that follow one of the `joiners` each. -/
def features? (joiners : List String) :
    Nat → List ComponentValue → Option (List ComponentValue)
  | 0, vs => some vs
  | n + 1, vs =>
    match joiners.findSome? (keyword? · vs) with
    | none => some vs
    | some rest =>
      match feature? rest with
      | none => none
      | some rest => features? joiners n rest

/-- Words that are no media types. -/
def isReserved (word : String) : Bool :=
  ["not", "only", "and", "or", "layer"].any (Ascii.eqIgnoreCase word)

/-- A media type with its features, or a condition made of features alone. -/
def body? (only : Bool) (vs : List ComponentValue) :
    Option (Option String × List ComponentValue) :=
  match ident? vs with
  | some (word, rest) =>
    if isReserved word then none
    else
      (features? ["and"] rest.length rest).map
        ((if Ascii.eqIgnoreCase word "all" then none else some (Ascii.lower word)), ·)
  | none =>
    if only then none
    else
      match feature? vs with
      | none => none
      | some rest => (features? ["and", "or"] rest.length rest).map (none, ·)

/-- The query that the values are, if they are one. -/
def read? (vs : List ComponentValue) : Option MediaQuery :=
  let negated := (keyword? "not" vs).isSome
  let vs := (keyword? "not" vs).getD vs
  let only := !negated && (keyword? "only" vs).isSome
  let vs := if only then (keyword? "only" vs).getD vs else vs
  match body? only vs with
  | some (type, rest) => if isExhausted rest then some ⟨negated, type, false⟩ else none
  | none => none

def ofValues (vs : List ComponentValue) : MediaQuery :=
  (read? vs).getD unreadable

/-- The media type with its negation; what else the query says is not written. -/
def text (q : MediaQuery) : String :=
  (if q.negated then "not " else "") ++ q.type.getD "all"

end MediaQuery

/-- A media list. The empty list holds for every medium. -/
structure MediaList where
  queries : List MediaQuery
deriving DecidableEq, Repr, Inhabited

namespace MediaList

/-- The list that the values are: a query between any two commas, and none if there is nothing but
blanks. -/
def ofValues (vs : List ComponentValue) : MediaList :=
  if isExhausted vs then ⟨[]⟩
  else ⟨(pieces (·.isToken .comma) vs).map MediaQuery.ofValues⟩

def parse (s : String) : MediaList :=
  ofValues (values s)

def isEmpty (l : MediaList) : Bool :=
  l.queries.isEmpty

/-- Some query holds for the medium, or there is none. -/
def holds (l : MediaList) (medium : String) : Bool :=
  l.queries.isEmpty || l.queries.any (·.holds medium)

def text (l : MediaList) : String :=
  ", ".intercalate (l.queries.map MediaQuery.text)

end MediaList

end StyleTree
