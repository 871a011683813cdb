import StyleTree.Text.Direction.Tables

/-!
# Direction of text

Which way a text runs: the way of its first character that has a direction of its own.
-/

namespace StyleTree

inductive TextDirection where
  | ltr
  | rtl
deriving DecidableEq, Repr, Inhabited

namespace TextDirection

/-- The direction of a character of one of the classes L, R and AL. -/
def ofChar? (c : Char) : Option TextDirection :=
  if rightToLeft.contains c then some rtl
  else if neutral.contains c then none
  else some ltr

/-- The direction of the first character that has one. -/
def ofText? (s : String) : Option TextDirection :=
  s.toList.findSome? ofChar?

end TextDirection

end StyleTree
