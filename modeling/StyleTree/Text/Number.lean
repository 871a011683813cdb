import StyleTree.Text.Ascii

/-!
# Numbers as text

Which texts are numbers: digits with at most one point, perhaps a sign before them and an exponent
after them. The words for infinity and for no number count as well.
-/

namespace StyleTree.NumberText

/-- Digits with at most one point and at least one digit, and the text after them. -/
def mantissa? (s : List Char) : Option (List Char) :=
  let whole := s.takeWhile Ascii.isDigit
  let rest := s.dropWhile Ascii.isDigit
  match rest with
  | '.' :: r =>
    if whole.isEmpty && (r.takeWhile Ascii.isDigit).isEmpty then none
    else some (r.dropWhile Ascii.isDigit)
  | _ => if whole.isEmpty then none else some rest

def withoutSign : List Char → List Char
  | '+' :: r => r
  | '-' :: r => r
  | s => s

/-- Nothing, or an exponent with its mark. -/
def isExponent : List Char → Bool
  | [] => true
  | c :: r =>
    let digits := withoutSign r
    (c == 'e' || c == 'E') && !digits.isEmpty && digits.all Ascii.isDigit

/-- Digits with at most one point, and nothing else. -/
def isDecimal (s : List Char) : Bool :=
  mantissa? s == some []

/-- The text is a number. -/
def isNumber (s : List Char) : Bool :=
  let rest := withoutSign s
  ["inf", "infinity", "nan"].any (Ascii.eqIgnoreCase · (String.ofList rest)) ||
    (mantissa? rest).any isExponent

end StyleTree.NumberText
