import StyleTree.Proofs.Selector.Search

/-!
# Selectors in arguments

In the argument of a pseudo-class a selector is matched as it is outside of it, but for two things.
Within `:has()` there is an element that relative selectors start from; a selector without `:has()`
does not see it. And in quirks mode a compound that says nothing but `:hover` and `:active` matches
links only, unless it stands in an argument. `Complex.asArgument` makes up for this: there it adds
`:any-link` to such a compound, and what comes out matches in an argument what the selector matches
outside of arguments.
-/

namespace StyleTree

/-! ## What occurs in a selector -/

mutual

/-- Every simple selector that occurs in it, perhaps in an argument, satisfies `q`; the start of a
relative selector occurs only if `start` is true. -/
def Simple.isMadeOf (q : Simple → Bool) (start : Bool) : Simple → Bool
  | .nthOf test list => q (.nthOf test list) && allMadeOf q start list
  | .negation list => q (.negation list) && allMadeOf q start list
  | .isAny list => q (.isAny list) && allMadeOf q start list
  | .whereAny list => q (.whereAny list) && allMadeOf q start list
  | .has list => q (.has list) && allMadeOf q start list
  | .host simples => q (.host simples) && compoundMadeOf q start simples
  | s => q s

def compoundMadeOf (q : Simple → Bool) (start : Bool) : List Simple → Bool
  | [] => true
  | s :: rest => s.isMadeOf q start && compoundMadeOf q start rest

def Complex.isMadeOf (q : Simple → Bool) (start : Bool) : Complex → Bool
  | .compound simples => compoundMadeOf q start simples
  | .step simples _ left => compoundMadeOf q start simples && left.isMadeOf q start
  | .anchor => start

def allMadeOf (q : Simple → Bool) (start : Bool) : List Complex → Bool
  | [] => true
  | c :: rest => c.isMadeOf q start && allMadeOf q start rest

end

theorem Simple.of_isMadeOf {q : Simple → Bool} {start : Bool} (s : Simple)
    (hs : s.isMadeOf q start = true) : q s = true := by
  cases s <;> simp_all [isMadeOf]

/-- The selector is `:has()`. -/
def Simple.isHas : Simple → Bool
  | .has _ => true
  | _ => false

/-- Neither `:has()` nor a relative selector occurs in the compound. -/
def compoundAvoidsHas (simples : List Simple) : Bool :=
  compoundMadeOf (!·.isHas) false simples

/-- Neither `:hover` nor `:active` occurs in the compound. -/
def compoundAvoidsHover (simples : List Simple) : Bool :=
  compoundMadeOf (!·.isActiveOrHover) true simples

/-- Neither `:hover` nor `:active` occurs in the selector. -/
def Complex.avoidsHover (c : Complex) : Bool :=
  c.isMadeOf (!·.isActiveOrHover) true

variable {p : Page} {n : NodeId} {anchor : Option NodeId}

/-! ## The start of relative selectors -/

section Anchor

variable (p anchor)

mutual

theorem Simple.holds_anchor (n : NodeId) :
    ∀ s : Simple, s.isMadeOf (!·.isHas) false = true → s.holds p anchor n = s.holds p none n
  | .nthOf test list, hs => by
    rw [Simple.isMadeOf, Bool.and_eq_true] at hs
    simp only [Simple.holds, fun m => someHolds_anchor true m list hs.2]
  | .negation list, hs | .isAny list, hs | .whereAny list, hs => by
    rw [Simple.isMadeOf, Bool.and_eq_true] at hs
    simp only [Simple.holds, someHolds_anchor true n list hs.2]
  | .has list, hs => by simp [Simple.isMadeOf, Simple.isHas] at hs
  | .localName _, _ | .universal, _ | .noNamespace, _ | .id _, _ | .className _, _
  | .attribute _, _ | .root, _ | .empty, _ | .scope, _ | .nth _, _ | .host _, _
  | .pseudoClass _, _ | .invalid _, _ => by simp only [Simple.holds]

theorem allHold_anchor (n : NodeId) :
    ∀ list : List Simple, compoundMadeOf (!·.isHas) false list = true →
      allHold p anchor n list = allHold p none n list
  | [], _ => by simp only [allHold]
  | s :: rest, hs => by
    rw [compoundMadeOf, Bool.and_eq_true] at hs
    simp only [allHold, s.holds_anchor n hs.1, allHold_anchor n rest hs.2]

theorem Complex.search_anchor (nested : Bool) (n : NodeId) :
    ∀ c : Complex, c.isMadeOf (!·.isHas) false = true →
      c.search p nested anchor n = c.search p nested none n
  | .compound simples, hc => by
    rw [Complex.isMadeOf] at hc
    simp only [Complex.search, allHold_anchor n simples hc]
  | .step simples c left, hc => by
    rw [Complex.isMadeOf, Bool.and_eq_true] at hc
    simp only [Complex.search, allHold_anchor n simples hc.1,
      fun m => left.search_anchor nested m hc.2]
  | .anchor, hc => by simp [Complex.isMadeOf] at hc

theorem someHolds_anchor (nested : Bool) (n : NodeId) :
    ∀ list : List Complex, allMadeOf (!·.isHas) false list = true →
      someHolds p nested anchor n list = someHolds p nested none n list
  | [], _ => by simp only [someHolds]
  | c :: rest, hc => by
    rw [allMadeOf, Bool.and_eq_true] at hc
    simp only [someHolds, c.search_anchor nested n hc.1, someHolds_anchor nested n rest hc.2]

end

end Anchor

/-! ## Links in quirks mode -/

/-- The compound, restricted to links if it says nothing but `:hover` and `:active`. -/
def barHover (simples : List Simple) : List Simple :=
  if !simples.isEmpty && simples.all (·.isActiveOrHover) then
    simples ++ [.pseudoClass .anyLink]
  else simples

/-- The selector with each of its compounds restricted as by `barHover`. -/
def Complex.barHover : Complex → Complex
  | .compound simples => .compound (StyleTree.barHover simples)
  | .step simples c left => .step (StyleTree.barHover simples) c left.barHover
  | .anchor => .anchor

/-- What is to stand in an argument for the compound to match there what it matches outside of
arguments. -/
def compoundAsArgument (m : Mode) (simples : List Simple) : List Simple :=
  if m.isQuirks then barHover simples else simples

/-- As `compoundAsArgument`, for a complex selector. -/
def Complex.asArgument (m : Mode) (c : Complex) : Complex :=
  if m.isQuirks then c.barHover else c

theorem allHold_append (xs ys : List Simple) :
    allHold p anchor n (xs ++ ys) = (allHold p anchor n xs && allHold p anchor n ys) := by
  induction xs with
  | nil => simp [allHold]
  | cons s xs ih => simp [allHold, ih, Bool.and_assoc]

/-- In an argument nothing is barred. -/
theorem compoundHolds_nested (simples : List Simple) :
    compoundHolds p true anchor n simples = allHold p anchor n simples := by
  simp [compoundHolds, isBarredHover]

theorem compoundHolds_strict (hstrict : p.mode.isQuirks = false) (nested : Bool)
    (simples : List Simple) :
    compoundHolds p nested anchor n simples = allHold p anchor n simples := by
  simp [compoundHolds, isBarredHover, hstrict]

theorem allHold_barHover (hquirks : p.mode.isQuirks = true) (simples : List Simple) :
    allHold p anchor n (barHover simples) = compoundHolds p false anchor n simples := by
  cases hlone : !simples.isEmpty && simples.all (·.isActiveOrHover) with
  | true =>
    have hbarred : isBarredHover p false simples n = !p.isLink n := by
      rw [isBarredHover, hquirks, Bool.and_assoc, hlone]
      simp
    rw [barHover, hlone, if_pos rfl, allHold_append, compoundHolds, hbarred, Bool.not_not]
    simp [allHold, Simple.holds, PseudoClass.holds]
  | false =>
    have hbarred : isBarredHover p false simples n = false := by
      rw [isBarredHover, Bool.and_assoc, hlone, Bool.and_false]
    rw [barHover, hlone, if_neg Bool.false_ne_true, compoundHolds, hbarred, Bool.not_false,
      Bool.and_true]

theorem compoundHolds_asArgument (simples : List Simple) :
    compoundHolds p true anchor n (compoundAsArgument p.mode simples) =
      compoundHolds p false anchor n simples := by
  rw [compoundHolds_nested, compoundAsArgument]
  cases hmode : p.mode.isQuirks with
  | true => exact allHold_barHover hmode simples
  | false => exact (compoundHolds_strict hmode false simples).symm

theorem Complex.asArgument_compound (m : Mode) (simples : List Simple) :
    (compound simples).asArgument m = .compound (compoundAsArgument m simples) := by
  unfold asArgument compoundAsArgument
  split <;> rfl

theorem Complex.asArgument_step (m : Mode) (simples : List Simple) (c : Combinator)
    (left : Complex) :
    (step simples c left).asArgument m =
      .step (compoundAsArgument m simples) c (left.asArgument m) := by
  unfold asArgument compoundAsArgument
  split <;> rfl

theorem Complex.asArgument_anchor (m : Mode) : Complex.anchor.asArgument m = .anchor := by
  unfold asArgument
  split <;> rfl

/-- In an argument, `asArgument` makes up for the place. -/
theorem Complex.search_asArgument :
    ∀ (c : Complex) (n : NodeId),
      (c.asArgument p.mode).search p true anchor n = c.search p false anchor n
  | .compound simples, n => by
    rw [asArgument_compound, search_compound, search_compound, compoundHolds_asArgument]
  | .step simples c left, n => by
    have hleft : (left.asArgument p.mode).search p true anchor = left.search p false anchor :=
      funext fun m => search_asArgument left m
    rw [asArgument_step, search_step, search_step, compoundHolds_asArgument, hleft]
  | .anchor, n => by rw [asArgument_anchor, search, search]

/-! ## Where nothing has to be made up for -/

theorem barHover_of_avoidsHover {simples : List Simple}
    (hs : compoundAvoidsHover simples = true) : barHover simples = simples := by
  cases simples with
  | nil => rfl
  | cons s rest =>
    rw [compoundAvoidsHover, compoundMadeOf, Bool.and_eq_true] at hs
    have hhover := s.of_isMadeOf hs.1
    rw [Bool.not_eq_true'] at hhover
    simp [barHover, hhover]

theorem compoundAsArgument_eq_self {m : Mode} {simples : List Simple}
    (h : m.isQuirks = false ∨ compoundAvoidsHover simples = true) :
    compoundAsArgument m simples = simples := by
  unfold compoundAsArgument
  split
  next hquirks => exact barHover_of_avoidsHover (h.resolve_left (by simp [hquirks]))
  next => rfl

theorem Complex.asArgument_eq_self {m : Mode} :
    ∀ {c : Complex}, m.isQuirks = false ∨ c.avoidsHover = true → c.asArgument m = c
  | .compound simples, h => by
    rw [asArgument_compound, compoundAsArgument_eq_self]
    rwa [Complex.avoidsHover, Complex.isMadeOf] at h
  | .step simples c left, h => by
    rw [Complex.avoidsHover, Complex.isMadeOf, Bool.and_eq_true] at h
    rw [asArgument_step, compoundAsArgument_eq_self (h.imp_right And.left),
      asArgument_eq_self (h.imp_right And.right)]
  | .anchor, _ => asArgument_anchor m

end StyleTree
