/-!
# Blank characters

The Unicode characters with the property `White_Space`, and trimming by them. A superset of the
white space of `StyleTree.Ascii`: the vertical tab, the no-break space and the ideographic space
are blank although style sheets do not treat them as space.
-/

namespace StyleTree

/-- The character has the Unicode property `White_Space`. -/
def isBlank (c : Char) : Bool :=
  let n := c.toNat
  (9 ≤ n && n ≤ 13) || n == 0x20 || n == 0x85 || n == 0xa0 || n == 0x1680 ||
    (0x2000 ≤ n && n ≤ 0x200a) || n == 0x2028 || n == 0x2029 || n == 0x202f || n == 0x205f ||
    n == 0x3000

/-- The characters between the first and the last that are not blank. -/
def trimBlank (s : List Char) : List Char :=
  ((s.dropWhile isBlank).reverse.dropWhile isBlank).reverse

/-- The text without leading and trailing blanks. -/
def trim (s : String) : String :=
  String.ofList (trimBlank s.toList)

end StyleTree
