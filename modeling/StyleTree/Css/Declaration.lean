import StyleTree.Text.Split
import StyleTree.Text.Blank
import StyleTree.Css.ComponentValue

/-!
# Declarations

`name: value` pairs, separated by semicolons. Values are kept as they are written; a declaration
that cannot be read is left out and does not touch its neighbours.
-/

namespace StyleTree

open Css

structure Declaration where
  /-- In lower case, unless it starts with two hyphens. -/
  name : String
  /-- The text of the value without the mark of importance. -/
  value : String
  important : Bool
deriving DecidableEq, Repr, Inhabited

namespace Declaration

def text (d : Declaration) : String :=
  d.name ++ ": " ++ d.value ++ (if d.important then " !important" else "")

/-- A property name as it is stored. -/
def canonicalName (s : String) : String :=
  if ['-', '-'].isPrefixOf s.toList then s else Ascii.lower s

/-- Whether the values after a declaration's value mark it as important; `none` if they are
neither the mark nor nothing. -/
def importance? : List ComponentValue → Option Bool
  | [] => some false
  | _ :: rest =>
    match keyword? "important" rest with
    | some rest => if isExhausted rest then some true else none
    | none => none

/-- The values before the first exclamation mark, and the values from it on. -/
def splitAtBang (vs : List ComponentValue) : List ComponentValue × List ComponentValue :=
  vs.span fun v => !v.isToken (.delim '!')

/-- The declaration that the values between two semicolons are, if they are one. -/
def read? (vs : List ComponentValue) : Option Declaration :=
  match ident? vs with
  | none => none
  | some (name, rest) =>
    match skipBlank rest with
    | .token ⟨.colon, _, _⟩ :: rest =>
      let parts := splitAtBang rest
      let value := trimBlank (textOf parts.1)
      if value.isEmpty then none
      else
        (importance? parts.2).map fun important =>
          ⟨canonicalName name, String.ofList value, important⟩
    | _ => none

/-- The declarations of a block. -/
def ofValues (vs : List ComponentValue) : List Declaration :=
  (pieces (·.isToken .semicolon) vs).filterMap read?

/-- The declarations of a style attribute. -/
def parse (s : String) : List Declaration :=
  ofValues (values s)

end Declaration

end StyleTree
