import StyleTree.Css.Lexer

/-!
# Component values

The block structure of a text. A block runs from its opening token to the token that closes it, or
to the end of the text; a closing token that closes no open block stands for itself. The text of
the values is the text they were read from.
-/

namespace StyleTree.Css

/-- A token that opens no block, or a block with its contents. `close` is absent if the text ended
inside the block. -/
inductive ComponentValue where
  | token (lexeme : Lexeme)
  | block (opening : Lexeme) (body : List ComponentValue) (close : Option Lexeme)
deriving Repr, Inhabited

/-! ## Nesting -/

/-- The values read so far: those of the innermost open block, and the open blocks around it, each
with the values before it. Every list is in reverse. -/
structure Nesting where
  current : List ComponentValue := []
  open_ : List (Lexeme × List ComponentValue) := []
deriving Repr, Inhabited

namespace Nesting

/-- The token closes the innermost open block. -/
def closes (n : Nesting) (t : Token) : Bool :=
  match n.open_ with
  | (l, _) :: _ => l.token.closer? == some t
  | [] => false

def read (n : Nesting) (l : Lexeme) : Nesting :=
  match n.open_ with
  | (o, before) :: outer =>
    if o.token.closer? = some l.token then ⟨.block o n.current.reverse (some l) :: before, outer⟩
    else if l.token.closer?.isSome then ⟨[], (l, n.current) :: n.open_⟩
    else ⟨.token l :: n.current, n.open_⟩
  | [] =>
    if l.token.closer?.isSome then ⟨[], (l, n.current) :: n.open_⟩
    else ⟨.token l :: n.current, n.open_⟩

/-- The values when the text ends: every open block ends with it. -/
def finish (current : List ComponentValue) :
    List (Lexeme × List ComponentValue) → List ComponentValue
  | (o, before) :: outer => finish (.block o current.reverse none :: before) outer
  | [] => current.reverse

end Nesting

/-- The component values of a list of lexemes. -/
def nest (ls : List Lexeme) : List ComponentValue :=
  let n := ls.foldl Nesting.read {}
  Nesting.finish n.current n.open_

/-- The component values of a text. -/
def values (s : String) : List ComponentValue :=
  nest (lexemes s.toList)

/-! ## Views -/

mutual

/-- The text that the value was read from. -/
def ComponentValue.text : ComponentValue → List Char
  | .token l => l.text
  | .block o body close => o.text ++ textOf body ++ close.elim [] Lexeme.text

/-- The text that the values were read from. -/
def textOf : List ComponentValue → List Char
  | [] => []
  | v :: vs => v.text ++ textOf vs

end

mutual

/-- How deep blocks are nested in the value. -/
def ComponentValue.depth : ComponentValue → Nat
  | .token _ => 0
  | .block _ body _ => depthOf body + 1

/-- How deep blocks are nested in the values. -/
def depthOf : List ComponentValue → Nat
  | [] => 0
  | v :: vs => max v.depth (depthOf vs)

end

namespace ComponentValue

/-- The token of the value, for a block the one that opens it. -/
def head : ComponentValue → Token
  | token l => l.token
  | block o _ _ => o.token

/-- White space or a comment. -/
def isBlank : ComponentValue → Bool
  | token l => l.token.isBlank
  | block .. => false

def isComment : ComponentValue → Bool
  | token l => l.token == .comment
  | block .. => false

/-- The value is the token `t`; a block is none. -/
def isToken (t : Token) : ComponentValue → Bool
  | token l => l.token == t
  | block .. => false

end ComponentValue

mutual

/-- No token within the value marks an error; the tokens that close blocks do not count. -/
def ComponentValue.isSound : ComponentValue → Bool
  | .token l => !l.token.isError
  | .block _ body _ => allSound body

/-- No token within the values marks an error. -/
def allSound : List ComponentValue → Bool
  | [] => true
  | v :: vs => v.isSound && allSound vs

end

/-! ## Reading -/

/-- The values without leading white space and comments. -/
def skipBlank (vs : List ComponentValue) : List ComponentValue :=
  vs.dropWhile (·.isBlank)

/-- The values without leading comments; white space counts. -/
def skipComments (vs : List ComponentValue) : List ComponentValue :=
  vs.dropWhile (·.isComment)

/-- Nothing but white space and comments. -/
def isExhausted (vs : List ComponentValue) : Bool :=
  vs.all (·.isBlank)

/-- The identifier at the start of the values, after blanks, and the values after it. -/
def ident? (vs : List ComponentValue) : Option (String × List ComponentValue) :=
  match skipBlank vs with
  | .token ⟨.ident s, _, _⟩ :: rest => some (s, rest)
  | _ => none

/-- The values after the identifier `word`, in any case, if they start with it after blanks. -/
def keyword? (word : String) (vs : List ComponentValue) : Option (List ComponentValue) :=
  match ident? vs with
  | some (s, rest) => if Ascii.eqIgnoreCase s word then some rest else none
  | none => none

/-- The identifier or the string at the start of the values, after blanks. -/
def identOrQuoted? (vs : List ComponentValue) : Option (String × List ComponentValue) :=
  match skipBlank vs with
  | .token ⟨.ident s, _, _⟩ :: rest => some (s, rest)
  | .token ⟨.quoted s, _, _⟩ :: rest => some (s, rest)
  | _ => none

end StyleTree.Css
