/-!
# Tables of characters

A table numbers characters. It lists them in rows, each with the number of its first character,
and numbers between rows stand for nothing.
-/

namespace StyleTree

/-- Rows of characters in ascending order. A replacement character fills a gap in a row. -/
abbrev Rows := List (Nat × String)

/-- The character with the number, found in the last row that starts no later. -/
def Rows.get? (rows : Rows) (number : Nat) : Option Char :=
  match (rows.takeWhile (·.1 ≤ number)).getLast? with
  | some (start, text) => (text.toList[number - start]?).filter (· != '\ufffd')
  | none => none

end StyleTree
