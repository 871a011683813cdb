import StyleTree.Text.Ascii
import StyleTree.Text.Split

/-!
# Addresses

Addresses of the two internet protocols: four numbers between dots, or eight between colons. Each
address has one form in which it is written.
-/

namespace StyleTree.Host

/-! ## Four numbers -/

def digitValue? (radix : Nat) (c : Char) : Option Nat :=
  match Ascii.hexDigit? c with
  | some d => if d < radix then some d else none
  | none => none

def natOf? (radix : Nat) (cs : List Char) : Option Nat :=
  cs.foldl (fun n c => match n, digitValue? radix c with
    | some n, some d => some (n * radix + d)
    | _, _ => none) (some 0)

/-- A number of an address, decimal, octal after `0` or hexadecimal after `0x`. -/
def addressNumber? : List Char → Option Nat
  | [] => none
  | '0' :: 'x' :: r => natOf? 16 r
  | '0' :: 'X' :: r => natOf? 16 r
  | '0' :: c :: r => natOf? 8 (c :: r)
  | s => natOf? 10 s

/-- The labels of a domain, without an empty last one. -/
def labels (s : List Char) : List (List Char) :=
  let ls := pieces (· == '.') s
  match ls.reverse with
  | [] :: rest => if rest.isEmpty then ls else rest.reverse
  | _ => ls

/-- The last label is a number, so the host has to be an address. -/
def endsInNumber (s : List Char) : Bool :=
  match (labels s).getLast? with
  | some l =>
    (!l.isEmpty && l.all Ascii.isDigit) || (addressNumber? l).isSome
  | none => false

/-- The address as four decimal numbers. -/
def dotted (n : Nat) : String :=
  s!"{n / 16777216 % 256}.{n / 65536 % 256}.{n / 256 % 256}.{n % 256}"

/-- An address of up to four numbers, of which the last fills the remaining bytes. -/
def ipv4? (s : List Char) : Option String :=
  let ls := labels s
  if ls.length > 4 then none
  else
    match (ls.mapM addressNumber?).map List.reverse with
    | some (last :: front) =>
      let room := Nat.pow 256 (4 - front.length)
      if front.any (· > 255) || last ≥ room then none
      else some (dotted (front.reverse.foldl (fun acc d => acc * 256 + d) 0 * room + last))
    | _ => none

/-! ## Eight numbers -/

/-- The last two numbers of an address, written as four decimal ones. -/
def ipv4Tail? (s : List Char) : Option (List Nat) :=
  match pieces (· == '.') s with
  | [a, b, c, d] =>
    let number? (cs : List Char) : Option Nat :=
      if cs.isEmpty || (cs.length > 1 && cs.head? == some '0') || cs.length > 3 then none
      else (natOf? 10 cs).bind fun n => if n ≤ 255 then some n else none
    match number? a, number? b, number? c, number? d with
    | some a, some b, some c, some d => some [a * 256 + b, c * 256 + d]
    | _, _, _, _ => none
  | _ => none

/-- The numbers between colons. Only the last group may be an address of four numbers. -/
def groups? (allowTail : Bool) (s : List Char) : Option (List Nat) :=
  if s.isEmpty then some []
  else
    let parts := pieces (· == ':') s
    let hexGroup? (cs : List Char) : Option (List Nat) :=
      if cs.isEmpty || cs.length > 4 then none else (natOf? 16 cs).map ([·])
    let last? (cs : List Char) : Option (List Nat) :=
      if allowTail && cs.contains '.' then ipv4Tail? cs else hexGroup? cs
    match parts.reverse with
    | last :: front =>
      match front.reverse.mapM hexGroup?, last? last with
      | some gs, some l => some (gs.flatten ++ l)
      | _, _ => none
    | [] => none

/-- The text before and after the first two colons in a row. -/
def cutAtDoubleColon? : List Char → Option (List Char × List Char)
  | ':' :: ':' :: r => some ([], r)
  | c :: r => (cutAtDoubleColon? r).map fun (a, b) => (c :: a, b)
  | [] => none

def ipv6Groups? (s : List Char) : Option (List Nat) :=
  match cutAtDoubleColon? s with
  | some (a, b) =>
    match groups? false a, groups? true b with
    | some front, some back =>
      let n := front.length + back.length
      if n > 7 then none else some (front ++ List.replicate (8 - n) 0 ++ back)
    | _, _ => none
  | none => (groups? true s).bind fun gs => if gs.length = 8 then some gs else none

/-- The length of the run of zeros at the start. -/
def zeros (gs : List Nat) : Nat :=
  (gs.takeWhile (· == 0)).length

/-- Where the first of the longest runs of two zeros or more starts, and its length. -/
def longestRun (gs : List Nat) : Option (Nat × Nat) :=
  (List.range gs.length).foldl (fun best i =>
    let n := zeros (gs.drop i)
    match best with
    | some (_, m) => if n > m then some (i, n) else best
    | none => if n ≥ 2 then some (i, n) else none) none

def hexText (n : Nat) : String :=
  String.ofList (Nat.toDigits 16 n)

def ipv6Text (gs : List Nat) : String :=
  let joined (l : List Nat) := ":".intercalate (l.map hexText)
  match longestRun gs with
  | some (i, n) => joined (gs.take i) ++ "::" ++ joined (gs.drop (i + n))
  | none => joined gs

end StyleTree.Host
