import StyleTree.Proofs.Selector.Readers

/-!
# Elements and their pseudo-elements

A selector is matched against a handle: an element, or a pseudo-element of it. The handle of a
pseudo-element has the data and the siblings of the element, but no parent. In a selector the
pseudo-element is a compound of its own, and a step to the originating element leads to the rest.
What can be read after a pseudo-element does not look at what it is matched against. So matching
the selector against the handle is looking at the element throughout, as `Selector.holds` does.
-/

namespace StyleTree

open Css

/-! ## Matching against handles -/

/-- An element, or a pseudo-element of it. -/
structure Handle where
  node : NodeId
  pseudo : Option PseudoElement
deriving DecidableEq, Repr

namespace Handle

/-- The element that the pseudo-element originates from. -/
def originating? (h : Handle) : Option Handle :=
  h.pseudo.map fun _ => ⟨h.node, none⟩

/-- The elements that a combinator leads to. The parent is hidden from a pseudo-element. -/
def candidates (p : Page) (h : Handle) (c : Combinator) : List NodeId :=
  match h.pseudo, c with
  | some _, .descendant | some _, .child => []
  | _, _ => c.candidates p h.node

end Handle

mutual

/-- The handle matches the simple selector. -/
def Simple.admits (p : Page) (anchor : Option NodeId) (h : Handle) : Simple → Bool
  | .nthOf test list =>
    someAdmit p anchor h list && test.holds p (fun m => someHolds p true anchor m list) h.node
  | .negation list => !someAdmit p anchor h list
  | .isAny list => someAdmit p anchor h list
  | .whereAny list => someAdmit p anchor h list
  -- Nothing else looks beyond the data of the element, its siblings and its descendants.
  | s => s.holds p anchor h.node

def allAdmit (p : Page) (anchor : Option NodeId) (h : Handle) : List Simple → Bool
  | [] => true
  | s :: rest => s.admits p anchor h && allAdmit p anchor h rest

/-- How the search for elements that make the handle match the complex selector ends. -/
def Complex.walk (p : Page) (nested : Bool) (anchor : Option NodeId) (h : Handle) :
    Complex → SearchResult
  | .compound simples =>
    if allAdmit p anchor h simples && !isBarredHover p nested simples h.node then .found
    else .fromLaterSibling
  | .step simples c left =>
    if allAdmit p anchor h simples && !isBarredHover p nested simples h.node then
      .search c (fun m => left.search p nested anchor m) (h.candidates p c)
    else .fromLaterSibling
  | .anchor => if anchor = some h.node then .found else .fromLaterSibling

/-- In the argument of a pseudo-class, the handle matches one of the complex selectors. -/
def someAdmit (p : Page) (anchor : Option NodeId) (h : Handle) : List Complex → Bool
  | [] => false
  | c :: rest => (c.walk p true anchor h).isFound || someAdmit p anchor h rest

end

namespace Selector

/-- The handle matches the selector. A compound with a pseudo-element asks for that pseudo-element
and for what is written after it, and then the originating element has to match the rest. -/
def admits (p : Page) (h : Handle) (s : Selector) : Bool :=
  match s.pseudo with
  | none => (s.complex.walk p false none h).isFound
  | some (q, after) =>
    h.pseudo == some q && allAdmit p none h after &&
      h.originating?.any fun e => (s.complex.walk p false none e).isFound

end Selector

/-- The index of the first selector for the pseudo-element of the handle, or for none, that the
handle matches. -/
def Page.admittedIndex? (p : Page) (h : Handle) (list : List Selector) : Option Nat :=
  if p.isElement h.node then list.findIdx? fun s => s.pseudoElement == h.pseudo && s.admits p h
  else none

/-! ## Elements -/

section Element

variable (p : Page) (anchor : Option NodeId) (n : NodeId)

mutual

theorem Simple.admits_element : ∀ s : Simple, s.admits p anchor ⟨n, none⟩ = s.holds p anchor n
  | .nthOf test list => by simp only [Simple.admits, Simple.holds, someAdmit_element list]
  | .negation list | .isAny list | .whereAny list => by
    simp only [Simple.admits, Simple.holds, someAdmit_element list]
  | .localName _ | .universal | .noNamespace | .id _ | .className _ | .attribute _ | .root
  | .empty | .scope | .nth _ | .has _ | .host _ | .pseudoClass _ | .invalid _ => by
    simp only [Simple.admits]

theorem allAdmit_element :
    ∀ list : List Simple, allAdmit p anchor ⟨n, none⟩ list = allHold p anchor n list
  | [] => by simp only [allAdmit, allHold]
  | s :: rest => by
    simp only [allAdmit, allHold, s.admits_element, allAdmit_element rest]

theorem Complex.walk_element (nested : Bool) :
    ∀ c : Complex, c.walk p nested anchor ⟨n, none⟩ = c.search p nested anchor n
  | .compound simples => by simp only [Complex.walk, Complex.search, allAdmit_element simples]
  | .step simples c left => by
    simp only [Complex.walk, Complex.search, allAdmit_element simples, Handle.candidates]
  | .anchor => by simp only [Complex.walk, Complex.search]

theorem someAdmit_element :
    ∀ list : List Complex, someAdmit p anchor ⟨n, none⟩ list = someHolds p true anchor n list
  | [] => by simp only [someAdmit, someHolds]
  | c :: rest => by simp only [someAdmit, someHolds, c.walk_element true, someAdmit_element rest]

end

end Element

/-! ## What stands after a pseudo-element -/

mutual

/-- Whether it matches does not depend on what it is matched against. -/
inductive Simple.IsBlind : Simple → Prop where
  | isAny {list : List Complex} (h : ∀ c ∈ list, c.IsBlind) : Simple.IsBlind (.isAny list)
  | whereAny {list : List Complex} (h : ∀ c ∈ list, c.IsBlind) : Simple.IsBlind (.whereAny list)
  | negation {list : List Complex} (h : ∀ c ∈ list, c.IsBlind) : Simple.IsBlind (.negation list)
  | invalid {text : String} : Simple.IsBlind (.invalid text)

inductive Complex.IsBlind : Complex → Prop where
  | compound {simples : List Simple} (h : ∀ s ∈ simples, s.IsBlind) :
    Complex.IsBlind (.compound simples)

end

section Blind

variable (p p' : Page) (anchor anchor' : Option NodeId) (h : Handle) (n : NodeId)

mutual

theorem Simple.IsBlind.admits_eq :
    ∀ s : Simple, s.IsBlind → s.admits p anchor h = s.holds p' anchor' n
  | .negation list, .negation hlist | .isAny list, .isAny hlist
  | .whereAny list, .whereAny hlist => by
    simp only [Simple.admits, Simple.holds, someAdmit_eq_of_isBlind list hlist]
  | .invalid _, .invalid => by simp only [Simple.admits, Simple.holds]

theorem allAdmit_eq_of_isBlind :
    ∀ list : List Simple, (∀ s ∈ list, s.IsBlind) →
      allAdmit p anchor h list = allHold p' anchor' n list
  | [], _ => by simp only [allAdmit, allHold]
  | s :: rest, hlist => by
    obtain ⟨hs, hrest⟩ := List.forall_mem_cons.mp hlist
    simp only [allAdmit, allHold, Simple.IsBlind.admits_eq s hs, allAdmit_eq_of_isBlind rest hrest]

theorem Complex.IsBlind.isFound_walk :
    ∀ c : Complex, c.IsBlind →
      (c.walk p true anchor h).isFound = (c.search p' true anchor' n).isFound
  | .compound simples, .compound hsimples => by
    simp only [Complex.walk, Complex.search, allAdmit_eq_of_isBlind simples hsimples, isBarredHover,
      Bool.not_true, Bool.and_false, Bool.false_and, Bool.not_false, Bool.and_true]

theorem someAdmit_eq_of_isBlind :
    ∀ list : List Complex, (∀ c ∈ list, c.IsBlind) →
      someAdmit p anchor h list = someHolds p' true anchor' n list
  | [], _ => by simp only [someAdmit, someHolds]
  | c :: rest, hlist => by
    obtain ⟨hc, hrest⟩ := List.forall_mem_cons.mp hlist
    simp only [someAdmit, someHolds, Complex.IsBlind.isFound_walk c hc,
      someAdmit_eq_of_isBlind rest hrest]

end

end Blind

namespace SelectorReader

/-- What a nested list holds after a pseudo-element is blind, unless the list is relative. -/
def Blinds (nested : NestedReader) : Prop :=
  ∀ place form vs list, place.afterPseudo = true → form ≠ .relative →
    nested place form vs = some list → ∀ c ∈ list, c.IsBlind

section Nested

variable {nested : NestedReader} (hnested : Blinds nested) {place : SelectorPlace}
  {vs rest : List ComponentValue}

include hnested

theorem isBlind_of_functionalPseudoClass? (hplace : place.afterPseudo = true) {name : String}
    {s : Simple} (h : functionalPseudoClass? nested place name vs = some s) : s.IsBlind := by
  have hunless : ∀ {o : Option Simple}, (if place.afterPseudo then none else o) ≠ some s := by
    intro o
    rw [if_pos hplace]
    nofun
  have hlist : ∀ {form : ListForm} {list : List Complex}, form ≠ .relative →
      nested place.inner form vs = some list → ∀ c ∈ list, c.IsBlind :=
    fun hform hread => hnested place.inner _ _ _ hplace hform hread
  unfold functionalPseudoClass? at h
  dsimp only at h
  -- One case for each name, in the order in which they are compared.
  split at h
  case h_1 | h_2 | h_3 | h_4 | h_10 | h_11 | h_12 => exact absurd h hunless
  case h_5 =>
    obtain ⟨list, hread, rfl⟩ := Option.map_eq_some_iff.mp h
    exact .isAny (hlist (by decide) hread)
  case h_6 =>
    obtain ⟨list, hread, rfl⟩ := Option.map_eq_some_iff.mp h
    exact .whereAny (hlist (by decide) hread)
  case h_7 =>
    obtain ⟨list, hread, rfl⟩ := Option.map_eq_some_iff.mp h
    exact .negation (hlist (by decide) hread)
  case h_8 =>
    split at h
    · exact absurd h hunless
    · cases h
  case h_9 =>
    split at h
    · cases h
    · cases h
  case h_13 => cases h

theorem isBlind_of_pseudoPart? (hplace : place.afterPseudo = true) {doubled : Bool} {name : String}
    {argument : Option (List ComponentValue)} {part : Part}
    (h : pseudoPart? nested place doubled name argument = some part) :
    ∃ s, part = .simple s ∧ s.IsBlind := by
  unfold pseudoPart? at h
  split at h
  · simp [hplace] at h
  · split at h
    · obtain ⟨s, hs, rfl⟩ := Option.map_eq_some_iff.mp h
      exact ⟨s, rfl, isBlind_of_functionalPseudoClass? hnested hplace hs⟩
    · cases h

/-- After a pseudo-element a part is blind. -/
theorem isBlind_of_part? (hplace : place.afterPseudo = true) {part : Part}
    (h : part? nested place vs = .ok (some part) rest) : ∃ s, part = .simple s ∧ s.IsBlind := by
  have hpart : ∀ {doubled : Bool} {name : String} {argument : Option (List ComponentValue)} {us},
      (some <$> ofOption (pseudoPart? nested place doubled name argument) :
        SelectorReader (Option Part)) us = .ok (some part) rest →
      ∃ s, part = .simple s ∧ s.IsBlind := by
    intro doubled name argument us h
    cases hread : pseudoPart? nested place doubled name argument with
    | none =>
      rw [hread] at h
      cases h
    | some part' =>
      rw [hread] at h
      cases h
      exact isBlind_of_pseudoPart? hnested hplace hread
  unfold part? at h
  obtain ⟨start, us, -, h⟩ := bind_eq_ok h
  obtain ⟨v, us, -, h⟩ := bind_eq_ok h
  split at h
  · rw [if_pos hplace] at h
    cases h
  · rw [if_pos hplace] at h
    cases h
  · rw [if_pos hplace] at h
    cases h
  · obtain ⟨first, us, -, h⟩ := bind_eq_ok h
    -- The name comes next or after a second colon.
    have hnamed : ∀ {x : ComponentValue → SelectorReader (Option Part)},
        (if first.isToken .colon = true then next >>= x else pure first >>= x) us =
          .ok (some part) rest → ∃ named us', x named us' = .ok (some part) rest := by
      intro x h
      split at h
      · obtain ⟨named, us', -, h⟩ := bind_eq_ok h
        exact ⟨named, us', h⟩
      · exact ⟨first, us, h⟩
    obtain ⟨named, us', h⟩ := hnamed h
    dsimp only at h
    split at h
    · exact hpart h
    · exact hpart h
    · cases h
  · cases h

theorem isBlind_of_parts {limit : Nat} {c : CompoundParts}
    (h : parts nested limit place vs = .ok c rest) :
    (place.afterPseudo = true → ∀ s ∈ c.simples, s.IsBlind) ∧
      ∀ q ∈ c.pseudo, ∀ s ∈ q.2, s.IsBlind := by
  induction limit generalizing place vs c with
  | zero =>
    cases h
    exact ⟨nofun, nofun⟩
  | succ limit ih =>
    unfold parts at h
    obtain ⟨o, us, hpart, h⟩ := bind_eq_ok h
    rcases o with _ | s | q
    · cases h
      exact ⟨nofun, nofun⟩
    · obtain ⟨more, us', hmore, h⟩ := bind_eq_ok h
      cases h
      obtain ⟨hsimples, hpseudo⟩ := ih hmore
      refine ⟨fun hplace => List.forall_mem_cons.mpr ⟨?_, hsimples hplace⟩, hpseudo⟩
      obtain ⟨s', ⟨⟩, hs⟩ := isBlind_of_part? hnested hplace hpart
      exact hs
    · obtain ⟨more, us', hmore, h⟩ := bind_eq_ok h
      cases h
      refine ⟨nofun, ?_⟩
      rintro q ⟨⟩
      exact (ih hmore).1 rfl

theorem isBlind_of_compound {c : CompoundParts} (h : compound nested place vs = .ok c rest) :
    (place.afterPseudo = true → ∀ s ∈ c.simples, s.IsBlind) ∧
      ∀ q ∈ c.pseudo, ∀ s ∈ q.2, s.IsBlind := by
  unfold compound at h
  obtain ⟨us, us', -, h⟩ := bind_eq_ok h
  obtain ⟨us, us', -, h⟩ := bind_eq_ok h
  obtain ⟨type, us', -, h⟩ := bind_eq_ok h
  dsimp only at h
  split at h
  · cases h
  next htype =>
    obtain ⟨us, us', -, h⟩ := bind_eq_ok h
    obtain ⟨more, us', hmore, h⟩ := bind_eq_ok h
    cases h
    obtain ⟨hsimples, hpseudo⟩ := isBlind_of_parts hnested hmore
    refine ⟨fun hplace => ?_, hpseudo⟩
    -- There is no type selector after a pseudo-element.
    obtain rfl : type = none := by simpa [hplace] using htype
    exact hsimples hplace

theorem isBlind_of_steps {limit : Nat} {left : Option (Complex × Combinator)} {s : Selector}
    (h : steps nested place limit left vs = .ok s rest) :
    (place.afterPseudo = true → left = none → s.complex.IsBlind) ∧
      ∀ q ∈ s.pseudo, ∀ t ∈ q.2, t.IsBlind := by
  induction limit generalizing left vs with
  | zero => cases h
  | succ limit ih =>
    rw [steps_succ] at h
    obtain ⟨c, us, hcompound, h⟩ := bind_eq_ok h
    obtain ⟨hsimples, hpseudo⟩ := isBlind_of_compound hnested hcompound
    have hhere : place.afterPseudo = true → left = none → (extend c.simples left).IsBlind := by
      rintro hplace rfl
      exact .compound (hsimples hplace)
    split at h
    · cases h
    unfold goOn at h
    split at h
    · cases h
      exact ⟨hhere, hpseudo⟩
    next hplace =>
      have hplace : place.afterPseudo ≠ true := by simp_all
      obtain ⟨combinator, us, -, h⟩ := bind_eq_ok h
      split at h
      · cases h
        exact ⟨hhere, nofun⟩
      split at h
      · cases h
      · exact ⟨fun hafter => absurd hafter hplace, (ih h).2⟩

theorem isBlind_of_entryOf {form : ListForm} {s : Selector}
    (h : entryOf nested place form vs = .ok s) :
    (place.afterPseudo = true → form ≠ .relative → s.complex.IsBlind) ∧
      ∀ q ∈ s.pseudo, ∀ t ∈ q.2, t.IsBlind := by
  unfold entryOf at h
  split at h
  next hentry =>
    split at h
    · cases h
      unfold entry at hentry
      obtain ⟨us, us', -, hentry⟩ := bind_eq_ok hentry
      obtain ⟨us, us', -, hentry⟩ := bind_eq_ok hentry
      split at hentry
      next hform =>
        obtain ⟨combinator, us', -, hentry⟩ := bind_eq_ok hentry
        obtain ⟨us, us', -, hentry⟩ := bind_eq_ok hentry
        exact ⟨fun _ hstrict => absurd hform hstrict, (isBlind_of_steps hnested hentry).2⟩
      · obtain ⟨us, us', -, hentry⟩ := bind_eq_ok hentry
        obtain ⟨hcomplex, hpseudo⟩ := isBlind_of_steps hnested hentry
        exact ⟨fun hplace _ => hcomplex hplace rfl, hpseudo⟩
    · cases h
  · cases h

end Nested

theorem blinds_nestedList (depth : Nat) : Blinds (nestedList depth) := by
  induction depth with
  | zero =>
    intro place form vs list _ _ h
    cases h
  | succ depth ih =>
    intro place form vs list hplace hform h c hc
    obtain ⟨piece, -, hread⟩ := exists_of_mem_mapM h hc
    split at hread
    next s hs =>
      cases hread
      exact (isBlind_of_entryOf ih hs).1 hplace hform
    next rest _ =>
      split at hread
      · cases hread
        exact .compound (List.forall_mem_singleton.mpr .invalid)
      · cases hread

end SelectorReader

/-- In a list that is read from a text, what stands after pseudo-elements is blind. -/
theorem Selector.isBlind_of_parseList? {text : String} {list : List Selector}
    (h : parseList? text = some list) : ∀ s ∈ list, ∀ q ∈ s.pseudo, ∀ t ∈ q.2, t.IsBlind := by
  intro s hs
  obtain ⟨piece, -, hread⟩ := exists_entryOf h hs
  exact (SelectorReader.isBlind_of_entryOf (SelectorReader.blinds_nestedList _) hread).2

/-! ## Selectors -/

/-- A handle of the pseudo-element that the selector is for, or of an element if it is for none,
matches it as `Selector.holds` says. -/
theorem Selector.admits_eq_holds {s : Selector} (hblind : ∀ q ∈ s.pseudo, ∀ t ∈ q.2, t.IsBlind)
    (p : Page) (h : Handle) :
    (s.pseudoElement == h.pseudo && s.admits p h) = s.holds p h.pseudo h.node := by
  obtain ⟨c, pseudo⟩ := s
  obtain ⟨n, r⟩ := h
  rw [Selector.holds, Bool.and_assoc]
  cases hfor : (Selector.pseudoElement ⟨c, pseudo⟩ == r) with
  | false => rfl
  | true =>
    obtain rfl : pseudo.map (·.1) = r := beq_iff_eq.mp hfor
    obtain _ | ⟨q, after⟩ := pseudo
    · simp [Selector.admits, Complex.walk_element, Complex.holds]
    · have hafter : allAdmit p none ⟨n, some q⟩ after = allHold p none n after :=
        allAdmit_eq_of_isBlind p p none none _ n after (hblind _ rfl)
      simp [Selector.admits, Handle.originating?, Complex.walk_element, Complex.holds, hafter,
        Bool.and_comm]

theorem findIdx?_congr {α : Type} {f g : α → Bool} {xs : List α} (h : ∀ x ∈ xs, f x = g x) :
    xs.findIdx? f = xs.findIdx? g := by
  induction xs with
  | nil => rfl
  | cons x xs ih =>
    obtain ⟨hx, hxs⟩ := List.forall_mem_cons.mp h
    rw [List.findIdx?_cons, List.findIdx?_cons, hx, ih hxs]

/-- Selectors that are read from a text are looked for in the same way in elements and, by way of
handles, in pseudo-elements. -/
theorem Page.matchedIndex?_eq_admittedIndex? {text : String} {list : List Selector}
    (h : Selector.parseList? text = some list) (p : Page) (n : NodeId)
    (pseudo : Option PseudoElement) :
    p.matchedIndex? n list pseudo = p.admittedIndex? ⟨n, pseudo⟩ list := by
  unfold matchedIndex? admittedIndex?
  split
  · refine findIdx?_congr fun s hs => ?_
    exact (Selector.admits_eq_holds (Selector.isBlind_of_parseList? h s hs) p ⟨n, pseudo⟩).symm
  · rfl

end StyleTree
