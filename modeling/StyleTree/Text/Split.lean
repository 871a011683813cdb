import StyleTree.Text.Ascii

/-!
# Splitting

A list cut at its separators. The pieces keep everything but the separators, so there is always
one piece more than there are separators.
-/

namespace StyleTree

/-- The pieces between the elements that satisfy `p`; a list without one is a single piece. -/
def pieces {α : Type} (p : α → Bool) : List α → List (List α)
  | [] => [[]]
  | x :: xs =>
    if p x then [] :: pieces p xs
    else
      match pieces p xs with
      | [] => [[x]]
      | w :: ws => (x :: w) :: ws

/-- The list before and the list after the first element that satisfies `p`, which is dropped. -/
def cutAt? {α : Type} (p : α → Bool) : List α → Option (List α × List α)
  | [] => none
  | x :: xs => if p x then some ([], xs) else (cutAt? p xs).map fun (l, r) => (x :: l, r)

/-- The words of a text: its non-empty pieces between ASCII white space. -/
def words (s : String) : List String :=
  ((pieces Ascii.isWhitespace s.toList).filter (!·.isEmpty)).map String.ofList

end StyleTree
