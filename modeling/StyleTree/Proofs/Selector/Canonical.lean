import Mathlib.Tactic.ByContra
import StyleTree.Selector.Printer
import StyleTree.Selector.Specificity

/-!
# Selectors without what is not written

The text of a selector leaves out the universal selectors that say nothing. Without them a selector
is canonical: it has the same text, and it is as specific as before.
-/

namespace StyleTree

/-! ## Induction on selectors -/

/-- The selectors in the argument of the pseudo-class. -/
def Simple.arguments : Simple → List Complex
  | .nthOf _ list | .negation list | .isAny list | .whereAny list | .has list => list
  | _ => []

/-- The compound in the argument of `:host()`. -/
def Simple.hosted : Simple → List Simple
  | .host simples => simples
  | _ => []

/-- `P` holds of a simple selector if it holds of those in its argument, and `Q` of a complex
selector if `P` holds of the simple ones in it. -/
structure Hereditary (P : Simple → Prop) (Q : Complex → Prop) : Prop where
  simple : ∀ s : Simple, (∀ c ∈ s.arguments, Q c) → (∀ t ∈ s.hosted, P t) → P s
  compound : ∀ simples, (∀ s ∈ simples, P s) → Q (.compound simples)
  step : ∀ simples c left, (∀ s ∈ simples, P s) → Q left → Q (.step simples c left)
  anchor : Q .anchor

section Induction

variable {P : Simple → Prop} {Q : Complex → Prop}

mutual

theorem Hereditary.of_simple (h : Hereditary P Q) : ∀ s : Simple, P s
  | .nthOf test list => h.simple (.nthOf test list) (h.of_list list) nofun
  | .negation list => h.simple (.negation list) (h.of_list list) nofun
  | .isAny list => h.simple (.isAny list) (h.of_list list) nofun
  | .whereAny list => h.simple (.whereAny list) (h.of_list list) nofun
  | .has list => h.simple (.has list) (h.of_list list) nofun
  | .host simples => h.simple (.host simples) nofun (h.of_simples simples)
  | .localName name => h.simple (.localName name) nofun nofun
  | .universal => h.simple .universal nofun nofun
  | .noNamespace => h.simple .noNamespace nofun nofun
  | .id name => h.simple (.id name) nofun nofun
  | .className name => h.simple (.className name) nofun nofun
  | .attribute test => h.simple (.attribute test) nofun nofun
  | .root => h.simple .root nofun nofun
  | .empty => h.simple .empty nofun nofun
  | .scope => h.simple .scope nofun nofun
  | .nth test => h.simple (.nth test) nofun nofun
  | .pseudoClass c => h.simple (.pseudoClass c) nofun nofun
  | .invalid text => h.simple (.invalid text) nofun nofun

theorem Hereditary.of_simples (h : Hereditary P Q) : ∀ simples : List Simple, ∀ s ∈ simples, P s
  | [] => nofun
  | s :: rest => List.forall_mem_cons.mpr ⟨h.of_simple s, h.of_simples rest⟩

theorem Hereditary.of_complex (h : Hereditary P Q) : ∀ c : Complex, Q c
  | .compound simples => h.compound simples (h.of_simples simples)
  | .step simples c left => h.step simples c left (h.of_simples simples) (h.of_complex left)
  | .anchor => h.anchor

theorem Hereditary.of_list (h : Hereditary P Q) : ∀ list : List Complex, ∀ c ∈ list, Q c
  | [] => nofun
  | c :: rest => List.forall_mem_cons.mpr ⟨h.of_complex c, h.of_list rest⟩

end

/-- Induction along a complex selector, from left to right, whatever its simple selectors are. -/
@[elab_as_elim]
theorem Complex.steps_induction {Q : Complex → Prop} (compound : ∀ simples, Q (.compound simples))
    (step : ∀ simples combinator left, Q left → Q (.step simples combinator left))
    (anchor : Q .anchor) (c : Complex) : Q c :=
  have h : Hereditary (fun _ => True) Q :=
    { simple := fun _ _ _ => trivial
      compound := fun simples _ => compound simples
      step := fun simples combinator left _ => step simples combinator left
      anchor := anchor }
  h.of_complex c

end Induction

/-! ## Canonical selectors -/

mutual

/-- The selector without the universal ones that its text leaves out. -/
def Simple.canonical : Simple → Simple
  | .nthOf test list => .nthOf test (canonicalList list)
  | .negation list => .negation (canonicalList list)
  | .isAny list => .isAny (canonicalList list)
  | .whereAny list => .whereAny (canonicalList list)
  | .has list => .has (canonicalList list)
  | .host simples => .host (canonicalCompound (showsUniversal simples false) simples)
  | s => s

/-- The compound; universal selectors only if `universal` is set. -/
def canonicalCompound (universal : Bool) : List Simple → List Simple
  | [] => []
  | s :: rest =>
    if s.isUniversal && !universal then canonicalCompound universal rest
    else s.canonical :: canonicalCompound universal rest

/-- The complex selector, given whether a pseudo-element follows it. -/
def Complex.canonicalBefore (pseudo : Bool) : Complex → Complex
  | .compound simples => .compound (canonicalCompound (showsUniversal simples pseudo) simples)
  | .step simples c left =>
    .step (canonicalCompound (showsUniversal simples pseudo) simples) c (left.canonicalBefore false)
  | .anchor => .anchor

def canonicalList : List Complex → List Complex
  | [] => []
  | c :: rest => c.canonicalBefore false :: canonicalList rest

end

/-- The selector without the universal ones that its text leaves out. -/
def Selector.canonical (s : Selector) : Selector :=
  ⟨s.complex.canonicalBefore s.pseudo.isSome,
    s.pseudo.map fun p => (p.1, canonicalCompound false p.2)⟩

theorem canonicalList_eq_map (list : List Complex) :
    canonicalList list = list.map (·.canonicalBefore false) := by
  induction list with
  | nil => rfl
  | cons c rest ih => rw [canonicalList, ih, List.map_cons]

/-- The simple selectors of a compound that are written. -/
def shown (universal : Bool) (simples : List Simple) : List Simple :=
  simples.filter fun s => universal || !s.isUniversal

theorem shown_true (simples : List Simple) : shown true simples = simples := by
  simp [shown]

theorem shown_cons (universal : Bool) (s : Simple) (rest : List Simple) :
    shown universal (s :: rest) =
      if s.isUniversal && !universal then shown universal rest else s :: shown universal rest := by
  rw [shown, List.filter_cons]
  cases s.isUniversal <;> cases universal <;> rfl

theorem canonicalCompound_eq_map (universal : Bool) (simples : List Simple) :
    canonicalCompound universal simples = (shown universal simples).map (·.canonical) := by
  induction simples with
  | nil => rfl
  | cons s rest ih =>
    rw [canonicalCompound, ih, shown_cons]
    split <;> rfl

theorem Simple.isUniversal_canonical (s : Simple) : s.canonical.isUniversal = s.isUniversal := by
  cases s <;> rfl

theorem Simple.isNoNamespace_canonical (s : Simple) :
    s.canonical.isNoNamespace = s.isNoNamespace := by
  cases s <;> rfl

/-! ## Text -/

theorem compoundText_eq_shown (universal : Bool) (simples : List Simple) :
    compoundText universal simples = compoundText true (shown universal simples) := by
  induction simples with
  | nil => rfl
  | cons s rest ih =>
    rw [compoundText, ih, shown_cons]
    split
    · simp
    · simp [compoundText]

theorem compoundText_map_canonical {simples : List Simple}
    (h : ∀ s ∈ simples, s.canonical.text = s.text) :
    compoundText true (simples.map (·.canonical)) = compoundText true simples := by
  induction simples with
  | nil => rfl
  | cons s rest ih =>
    obtain ⟨hs, hrest⟩ := List.forall_mem_cons.mp h
    rw [List.map_cons, compoundText, compoundText, hs, ih hrest]
    simp

theorem showsUniversal_map_canonical (simples : List Simple) (pseudo : Bool) :
    showsUniversal (simples.map (·.canonical)) pseudo = showsUniversal simples pseudo := by
  match simples with
  | [] => rfl
  | [_] => rfl
  | s :: _ :: _ => exact s.isNoNamespace_canonical

theorem shown_of_all {universal : Bool} {simples : List Simple}
    (h : ∀ s ∈ simples, s.isUniversal = false) : shown universal simples = simples := by
  refine List.filter_eq_self.mpr fun s hs => ?_
  simp [h s hs]

theorem isUniversal_of_mem_shown {simples : List Simple} {s : Simple}
    (h : s ∈ shown false simples) : s.isUniversal = false := by
  simpa using (List.mem_filter.mp h).2

/-- All of a canonical compound is written. -/
theorem shown_canonicalCompound (simples : List Simple) (pseudo : Bool) :
    ∀ canonical, canonical = canonicalCompound (showsUniversal simples pseudo) simples →
      shown (showsUniversal canonical pseudo) canonical = canonical := by
  rintro canonical rfl
  rw [canonicalCompound_eq_map]
  cases huniversal : showsUniversal simples pseudo with
  | true => rw [shown_true, showsUniversal_map_canonical, huniversal, shown_true]
  | false =>
    refine shown_of_all fun s hs => ?_
    obtain ⟨t, ht, rfl⟩ := List.mem_map.mp hs
    rw [Simple.isUniversal_canonical]
    exact isUniversal_of_mem_shown ht

/-- A canonical compound has the text of the compound. -/
theorem compoundText_canonical {simples canonical : List Simple} {pseudo : Bool}
    (hcanonical : canonical = canonicalCompound (showsUniversal simples pseudo) simples)
    (h : ∀ s ∈ simples, s.canonical.text = s.text) :
    compoundText (showsUniversal canonical pseudo) canonical =
      compoundText (showsUniversal simples pseudo) simples := by
  have hshown : ∀ s ∈ shown (showsUniversal simples pseudo) simples, s.canonical.text = s.text :=
    fun s hs => h s (List.mem_filter.mp hs).1
  rw [compoundText_eq_shown, shown_canonicalCompound simples pseudo canonical hcanonical,
    hcanonical, canonicalCompound_eq_map, compoundText_map_canonical hshown,
    ← compoundText_eq_shown]

theorem listText_canonicalList {list : List Complex}
    (h : ∀ c ∈ list, (c.canonicalBefore false).textBefore false = c.textBefore false) :
    listText (canonicalList list) = listText list := by
  induction list with
  | nil => rfl
  | cons c rest ih =>
    obtain ⟨hc, hrest⟩ := List.forall_mem_cons.mp h
    have ih := ih hrest
    cases rest with
    | nil => rw [canonicalList, canonicalList, listText, listText, hc]
    | cons d rest =>
      rw [canonicalList] at ih
      simp only [canonicalList, listText, hc, ih]

/-- After a compound, the combinator and the next compound. -/
theorem Complex.textBefore_step {left : Complex} (hleft : left ≠ .anchor) (simples : List Simple)
    (c : Combinator) (pseudo : Bool) :
    (step simples c left).textBefore pseudo = left.textBefore false ++ c.text ++
      compoundText (showsUniversal simples pseudo) simples := by
  cases left with
  | anchor => exact absurd rfl hleft
  | _ => rfl

theorem hereditary_text : Hereditary (fun s => s.canonical.text = s.text)
    fun c => ∀ pseudo, (c.canonicalBefore pseudo).textBefore pseudo = c.textBefore pseudo where
  simple s harguments hhosted := by
    have hlist : ∀ list, s.arguments = list → listText (canonicalList list) = listText list := by
      rintro list rfl
      exact listText_canonicalList fun c hc => harguments c hc false
    cases s with
    | nthOf test list => simp only [Simple.canonical, Simple.text, hlist list rfl]
    | negation list => simp only [Simple.canonical, Simple.text, hlist list rfl]
    | isAny list => simp only [Simple.canonical, Simple.text, hlist list rfl]
    | whereAny list => simp only [Simple.canonical, Simple.text, hlist list rfl]
    | has list => simp only [Simple.canonical, Simple.text, hlist list rfl]
    | host simples =>
      have hhosted : ∀ t ∈ simples, t.canonical.text = t.text := hhosted
      simp only [Simple.canonical, Simple.text]
      rw [compoundText_canonical rfl hhosted]
    | _ => rfl
  compound simples hsimples pseudo := compoundText_canonical rfl hsimples
  step simples c left hsimples hleft pseudo := by
    by_cases hanchor : left = .anchor
    · subst hanchor
      rw [Complex.canonicalBefore, Complex.canonicalBefore, Complex.textBefore, Complex.textBefore,
        compoundText_canonical rfl hsimples]
    · have hcanonical : left.canonicalBefore false ≠ .anchor := by
        cases left with
        | anchor => exact absurd rfl hanchor
        | _ => exact nofun
      rw [Complex.canonicalBefore, Complex.textBefore_step hanchor,
        Complex.textBefore_step hcanonical, hleft false, compoundText_canonical rfl hsimples]
  anchor _ := rfl

/-- A canonical selector has the text of the selector. -/
theorem Selector.text_canonical (s : Selector) : s.canonical.text = s.text := by
  obtain ⟨complex, pseudo⟩ := s
  have hcomplex := hereditary_text.of_complex complex
  cases pseudo with
  | none => exact hcomplex false
  | some p =>
    have hfilters : compoundText false (canonicalCompound false p.2) = compoundText false p.2 := by
      have hwritten : ∀ s ∈ shown false p.2, s.canonical.text = s.text :=
        fun s _ => hereditary_text.of_simple s
      have hshown : shown false ((shown false p.2).map (·.canonical)) =
          (shown false p.2).map (·.canonical) := by
        refine shown_of_all fun s hs => ?_
        obtain ⟨t, ht, rfl⟩ := List.mem_map.mp hs
        rw [Simple.isUniversal_canonical]
        exact isUniversal_of_mem_shown ht
      rw [canonicalCompound_eq_map, compoundText_eq_shown, hshown,
        compoundText_map_canonical hwritten, ← compoundText_eq_shown]
    simp only [canonical, text, Option.map_some, Option.isSome_some, hcomplex true, hfilters]

/-! ## Specificity -/

theorem Specificity.zero_add (a : Specificity) : zero + a = a := by
  show add zero a = a
  simp [add, zero]

/-- Universal selectors do not count. -/
theorem compoundSpecificity_canonicalCompound {simples : List Simple} (universal : Bool)
    (h : ∀ s ∈ simples, s.canonical.specificity = s.specificity) :
    compoundSpecificity (canonicalCompound universal simples) = compoundSpecificity simples := by
  induction simples with
  | nil => rfl
  | cons s rest ih =>
    obtain ⟨hs, hrest⟩ := List.forall_mem_cons.mp h
    rw [canonicalCompound, compoundSpecificity]
    split
    next hskip =>
      have hzero : s.specificity = .zero := by
        cases s <;> first | rfl | cases hskip
      rw [hzero, Specificity.zero_add, ih hrest]
    next => rw [compoundSpecificity, hs, ih hrest]

theorem packedMax_canonicalList {list : List Complex}
    (h : ∀ c ∈ list, (c.canonicalBefore false).specificity = c.specificity) :
    packedMax (canonicalList list) = packedMax list := by
  induction list with
  | nil => rfl
  | cons c rest ih =>
    obtain ⟨hc, hrest⟩ := List.forall_mem_cons.mp h
    rw [canonicalList, packedMax, packedMax, hc, ih hrest]

theorem hereditary_specificity : Hereditary (fun s => s.canonical.specificity = s.specificity)
    fun c => ∀ pseudo, (c.canonicalBefore pseudo).specificity = c.specificity where
  simple s harguments hhosted := by
    have hlist : ∀ list, s.arguments = list → packedMax (canonicalList list) = packedMax list := by
      rintro list rfl
      exact packedMax_canonicalList fun c hc => harguments c hc false
    cases s with
    | nthOf test list => simp only [Simple.canonical, Simple.specificity, hlist list rfl]
    | negation list => simp only [Simple.canonical, Simple.specificity, hlist list rfl]
    | isAny list => simp only [Simple.canonical, Simple.specificity, hlist list rfl]
    | has list => simp only [Simple.canonical, Simple.specificity, hlist list rfl]
    | whereAny list => rfl
    | host simples =>
      have hhosted : ∀ t ∈ simples, t.canonical.specificity = t.specificity := hhosted
      simp only [Simple.canonical, Simple.specificity]
      rw [compoundSpecificity_canonicalCompound _ hhosted]
    | _ => rfl
  compound simples hsimples pseudo := compoundSpecificity_canonicalCompound _ hsimples
  step simples c left hsimples hleft pseudo := by
    rw [Complex.canonicalBefore, Complex.specificity, Complex.specificity, hleft false,
      compoundSpecificity_canonicalCompound _ hsimples]
  anchor _ := rfl

/-- A canonical selector is as specific as the selector. -/
theorem Selector.specificity_canonical (s : Selector) :
    s.canonical.specificity = s.specificity := by
  obtain ⟨complex, pseudo⟩ := s
  have hcomplex := hereditary_specificity.of_complex complex
  cases pseudo with
  | none => simp only [canonical, specificity, hcomplex, Option.map_none, Option.elim_none]
  | some p =>
    have hfilters := compoundSpecificity_canonicalCompound false
      (hereditary_specificity.of_simples p.2)
    simp only [canonical, specificity, hcomplex, Option.map_some, Option.elim_some, hfilters]

theorem Selector.pseudoElement_canonical (s : Selector) :
    s.canonical.pseudoElement = s.pseudoElement := by
  obtain ⟨complex, _ | p⟩ := s <;> rfl

end StyleTree
