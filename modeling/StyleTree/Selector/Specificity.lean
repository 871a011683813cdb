import StyleTree.Selector.Basic

/-!
# Specificity

How specific selectors are: their ids count before their classes, and those before their types.
The three counts are packed into one number, ten bits each, in which larger counts saturate; the
lists inside functional pseudo-classes count with the packed number of their most specific
selector.
-/

namespace StyleTree

structure Specificity where
  ids : Nat
  classes : Nat
  types : Nat
deriving DecidableEq, Repr, Inhabited

namespace Specificity

def zero : Specificity := ⟨0, 0, 0⟩
def id : Specificity := ⟨1, 0, 0⟩
def className : Specificity := ⟨0, 1, 0⟩
def type : Specificity := ⟨0, 0, 1⟩

def add (a b : Specificity) : Specificity :=
  ⟨a.ids + b.ids, a.classes + b.classes, a.types + b.types⟩

instance : Add Specificity := ⟨add⟩

/-- The counts in one number. -/
def pack (s : Specificity) : Nat :=
  min s.ids 1023 * 1048576 + min s.classes 1023 * 1024 + min s.types 1023

/-- The counts in a packed number. -/
def unpack (n : Nat) : Specificity :=
  ⟨n / 1048576, n / 1024 % 1024, n % 1024⟩

end Specificity

mutual

def Simple.specificity : Simple → Specificity
  | .localName _ => .type
  | .id _ => .id
  | .className _ | .attribute _ | .root | .empty | .scope | .nth _ | .pseudoClass _ => .className
  | .nthOf _ list => .className + .unpack (packedMax list)
  | .host simples => .className + .unpack (compoundSpecificity simples).pack
  | .negation list | .isAny list | .has list => .unpack (packedMax list)
  | .universal | .noNamespace | .whereAny _ | .invalid _ => .zero

def compoundSpecificity : List Simple → Specificity
  | [] => .zero
  | s :: rest => s.specificity + compoundSpecificity rest

def Complex.specificity : Complex → Specificity
  | .compound simples => compoundSpecificity simples
  | .step simples _ left => compoundSpecificity simples + left.specificity
  | .anchor => .zero

/-- The largest packed specificity of a list. -/
def packedMax : List Complex → Nat
  | [] => 0
  | c :: rest => max c.specificity.pack (packedMax rest)

end

/-- The packed specificity of a selector. A pseudo-element counts as a type. -/
def Selector.specificity (s : Selector) : Nat :=
  (s.complex.specificity +
    s.pseudo.elim .zero fun p => .type + compoundSpecificity p.2).pack

end StyleTree
