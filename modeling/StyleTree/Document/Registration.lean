import StyleTree.Json.Record

/-!
# Registered properties

Custom properties that a document knows the initial value of.
-/

namespace StyleTree

structure Registration where
  /-- The name of the property, which starts with two hyphens. -/
  name : String
  /-- The values that the property takes; `*` stands for any. -/
  syntaxText : String
  /-- The property is inherited. -/
  inherits : Bool
  initialValue : Option String
deriving DecidableEq, Repr, Inhabited

namespace Registration

/-- Two hyphens and at least one character more. -/
def isCustomName (s : String) : Bool :=
  match s.toList with
  | '-' :: '-' :: _ :: _ => true
  | _ => false

def fieldNames : List String :=
  ["name", "syntax", "inherits", "initial_value"]

/-- The registration that a record describes. -/
def ofJson? (j : Json) : Option Registration := do
  match ← j.fields? fieldNames with
  | [name, syntaxText, inherits, initialValue] =>
    return {
      name := ← name.bind Json.string?
      syntaxText := ← Json.orDefault? Json.string? "*" syntaxText
      inherits := ← inherits.bind Json.bool?
      initialValue := ← Json.orDefault? (Json.nullable? Json.string?) none initialValue
    }
  | _ => none

def toJson (r : Registration) : Json :=
  .object (fieldNames.zip [
    .string r.name,
    .string r.syntaxText,
    .bool r.inherits,
    r.initialValue.elim .null .string])

end Registration

end StyleTree
