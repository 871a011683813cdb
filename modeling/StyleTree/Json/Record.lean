import StyleTree.Json

/-!
# Records as JSON

A record is written as an object, or as an array of its fields in their order. Of an object the
members with other keys do not count, but no field may occur twice; an array may end early where
the missing fields can be left out, and may not go on beyond the last field.
-/

namespace StyleTree.Json

/-- The values of the fields with the given names, each if it is written. None if the value is no
record with these fields. -/
def fields? (names : List String) : Json → Option (List (Option Json))
  | .array items =>
    if items.length ≤ names.length then
      some ((items.map some) ++ List.replicate (names.length - items.length) none)
    else none
  | .object members =>
    names.mapM fun name =>
      match members.filter (·.1 == name) with
      | [] => some none
      | [(_, v)] => some (some v)
      | _ => none
  | _ => none

def bool? : Json → Option Bool
  | .bool b => some b
  | _ => none

def string? : Json → Option String
  | .string s => some s
  | _ => none

/-- A value that may be `null`. -/
def nullable? {α : Type} (read : Json → Option α) : Json → Option (Option α)
  | .null => some none
  | v => (read v).map some

/-- A field that may be left out. -/
def orDefault? {α : Type} (read : Json → Option α) (default : α) : Option Json → Option α
  | none => some default
  | some v => read v

end StyleTree.Json
