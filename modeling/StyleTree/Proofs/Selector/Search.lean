import StyleTree.Proofs.Selector.Relations

/-!
# The search for a match misses nothing

A search that fails says how far back another choice has to be made. `SearchResult.Justified` says
what each answer promises about the elements that are left out because of it. Every search keeps
its promise, combinator by combinator, and so an element is found to match exactly if there are
elements to which the combinators lead and which match the compounds on the left.
-/

namespace StyleTree

/-! ## What a search looks for -/

/-- The combinator leads from the element to one with the property. -/
def Combinator.Via (p : Page) (P : NodeId → Prop) (c : Combinator) (n : NodeId) : Prop :=
  ∃ m ∈ c.candidates p n, P m

/-- The element matches the compound. -/
def compoundHolds (p : Page) (nested : Bool) (anchor : Option NodeId) (n : NodeId)
    (simples : List Simple) : Bool :=
  allHold p anchor n simples && !isBarredHover p nested simples n

/-- The element matches the subject of the complex selector, and some choice of elements on the
left matches the rest. -/
def Complex.Selects (p : Page) (nested : Bool) (anchor : Option NodeId) :
    Complex → NodeId → Prop
  | .compound simples, n => compoundHolds p nested anchor n simples = true
  | .step simples c left, n =>
    compoundHolds p nested anchor n simples = true ∧ c.Via p (left.Selects p nested anchor) n
  | .anchor, n => anchor = some n

/-- What an answer, given for `n` in the search for elements with the property `P`, promises. -/
def SearchResult.Justified (p : Page) (P : NodeId → Prop) (n : NodeId) : SearchResult → Prop
  | found => P n
  | fromLaterSibling => ¬P n
  | fromDescendant => ¬P n ∧ ∀ m ∈ p.precedingElements n, ¬P m
  -- Neither beside the element, nor above it, nor beside what is above it.
  | nowhere => ∀ m, p.ancestorElements m <:+ p.ancestorElements n → ¬P m

section

variable {p : Page} {P Q : NodeId → Prop} {n m a k : NodeId} {l : List NodeId}

/-! ## Where combinators lead -/

namespace Combinator

variable (h : p.tree.Sound)

include h

theorem via_descendant_of_cons (hl : p.ancestorElements n = a :: l) :
    descendant.Via p P n ↔ P a ∨ descendant.Via p P a := by
  simp [Via, candidates, hl, Page.ancestorElements_of_cons h hl]

theorem via_laterSibling_of_cons (hl : p.precedingElements n = a :: l) :
    laterSibling.Via p P n ↔ P a ∨ laterSibling.Via p P a := by
  simp [Via, candidates, hl, Page.precedingElements_of_cons h hl]

/-- Siblings have the same elements above them. -/
theorem candidates_sibling (hm : m ∈ p.precedingElements n) :
    descendant.candidates p m = descendant.candidates p n ∧
      child.candidates p m = child.candidates p n := by
  simp only [candidates, Page.parentElement?_eq_head? h,
    Page.ancestorElements_of_mem_precedingElements h hm, and_self]

/-- Where a combinator leads from a place as high as `n`, that is as high as its first candidate
from `n`. -/
theorem suffix_of_candidates {c : Combinator} (ha : (c.candidates p n).head? = some a)
    (hm : p.ancestorElements m <:+ p.ancestorElements n) (hk : k ∈ c.candidates p m) :
    p.ancestorElements k <:+ p.ancestorElements a := by
  have habove : ∀ {k}, k ∈ p.ancestorElements m → (p.ancestorElements n).head? = some a →
      p.ancestorElements k <:+ p.ancestorElements a := by
    intro k hk ha
    obtain ⟨l, hl⟩ := List.head?_eq_some_iff.mp ha
    have hsuffix := (Page.cons_ancestorElements_suffix h hk).trans hm
    rw [hl, ← Page.ancestorElements_of_cons h hl, List.suffix_cons_iff] at hsuffix
    rcases hsuffix with he | hsuffix
    · exact (List.cons.inj he).2 ▸ List.suffix_rfl
    · exact (List.suffix_cons k _).trans hsuffix
  have hbeside : ∀ {k}, k ∈ p.precedingElements m → a ∈ p.precedingElements n →
      p.ancestorElements k <:+ p.ancestorElements a := by
    intro k hk ha
    rwa [Page.ancestorElements_of_mem_precedingElements h hk,
      Page.ancestorElements_of_mem_precedingElements h ha]
  cases c with
  | descendant => exact habove hk ha
  | child =>
    simp only [candidates, Page.parentElement?_eq_head? h, Option.mem_toList,
      Option.head?_toList] at hk ha
    exact habove (List.mem_of_head? hk) ha
  | laterSibling => exact hbeside hk (List.mem_of_head? ha)
  | nextSibling =>
    simp only [candidates, Option.mem_toList, Option.head?_toList] at hk ha
    exact hbeside (List.mem_of_head? hk) (List.mem_of_head? ha)

end Combinator

/-! ## Promises -/

namespace SearchResult

namespace Justified

variable {r : SearchResult}

theorem isFound_iff (hr : r.Justified p P n) : r.isFound = true ↔ P n := by
  cases r with
  | found => exact iff_of_true rfl hr
  | fromLaterSibling => exact iff_of_false Bool.false_ne_true hr
  | fromDescendant => exact iff_of_false Bool.false_ne_true hr.1
  | nowhere => exact iff_of_false Bool.false_ne_true (hr n List.suffix_rfl)

/-- More is asked of the element than what was searched for. -/
theorem and (hr : r.Justified p P n) (hQ : Q n) : r.Justified p (fun m => Q m ∧ P m) n := by
  cases r with
  | found => exact ⟨hQ, hr⟩
  | fromLaterSibling => exact fun hn => hr hn.2
  | fromDescendant => exact ⟨fun hn => hr.1 hn.2, fun m hm hP => hr.2 m hm hP.2⟩
  | nowhere => exact fun m hm hP => hr m hm hP.2

section Via

variable {c : Combinator} (h : p.tree.Sound)

include h

/-- No other choice helps if none helps at the first candidate. -/
theorem nowhere_via (ha : (c.candidates p n).head? = some a) (hr : nowhere.Justified p P a) :
    nowhere.Justified p (c.Via p P) n :=
  fun _ hm ⟨k, hk, hP⟩ => hr k (Combinator.suffix_of_candidates h ha hm hk) hP

/-- No other sibling helps if none helps at the nearest one. -/
theorem fromDescendant_via (hc : ∀ m, c.candidates p m ⊆ p.precedingElements m)
    (hl : p.precedingElements n = a :: l) (hr : fromDescendant.Justified p P a) :
    fromDescendant.Justified p (c.Via p P) n := by
  have hall : ∀ k ∈ p.precedingElements n, ¬P k := by
    intro k hk
    rw [hl, ← Page.precedingElements_of_cons h hl, List.mem_cons] at hk
    rcases hk with rfl | hk
    · exact hr.1
    · exact hr.2 k hk
  refine ⟨?_, ?_⟩
  · rintro ⟨k, hk, hP⟩
    exact hall k (hc n hk) hP
  · rintro m hm ⟨k, hk, hP⟩
    exact hall k (Page.precedingElements_subset h hm (hc m hk)) hP

/-- Where there is nothing to be found at the parent, the search goes on from there. -/
theorem of_parent (hl : p.ancestorElements n = a :: l) (ha : ¬P a)
    (hr : r.Justified p (Combinator.descendant.Via p P) a) :
    r.Justified p (Combinator.descendant.Via p P) n := by
  have hn := (Combinator.via_descendant_of_cons h hl (P := P)).trans (or_iff_right ha)
  cases r with
  | found => exact hn.mpr hr
  | fromLaterSibling => exact fun hP => hr (hn.mp hP)
  | fromDescendant =>
    refine ⟨fun hP => hr.1 (hn.mp hP), fun m hm => ?_⟩
    rw [Combinator.Via, (Combinator.candidates_sibling h hm).1]
    exact fun hP => hr.1 (hn.mp hP)
  | nowhere =>
    intro m hm
    rw [hl, List.suffix_cons_iff, ← Page.ancestorElements_of_cons h hl] at hm
    rcases hm with hm | hm
    · rw [Page.ancestorElements_of_cons h hl, ← hl] at hm
      rw [Combinator.Via, Combinator.candidates, hm]
      exact fun hP => hr a List.suffix_rfl (hn.mp hP)
    · exact hr m hm

/-- Where there is nothing to be found at the nearest sibling, the search goes on from there. -/
theorem of_sibling (hl : p.precedingElements n = a :: l) (ha : ¬P a)
    (hr : r.Justified p (Combinator.laterSibling.Via p P) a) :
    r.Justified p (Combinator.laterSibling.Via p P) n := by
  have hn := (Combinator.via_laterSibling_of_cons h hl (P := P)).trans (or_iff_right ha)
  cases r with
  | found => exact hn.mpr hr
  | fromLaterSibling => exact fun hP => hr (hn.mp hP)
  | fromDescendant =>
    refine ⟨fun hP => hr.1 (hn.mp hP), fun m hm => ?_⟩
    rw [hl, ← Page.precedingElements_of_cons h hl, List.mem_cons] at hm
    rcases hm with rfl | hm
    · exact hr.1
    · exact hr.2 m hm
  | nowhere =>
    intro m hm
    have hup := Page.ancestorElements_of_mem_precedingElements h (n := n) (m := a) (by simp [hl])
    exact hr m (hup ▸ hm)

end Via

end Justified

/-! ## One combinator -/

section Search

variable {attempt : NodeId → SearchResult} (h : p.tree.Sound)
  (hattempt : ∀ m, (attempt m).Justified p P m)

include h hattempt

theorem justified_search_descendant :
    (search .descendant attempt (p.ancestorElements n)).Justified p
      (Combinator.descendant.Via p P) n := by
  induction hl : p.ancestorElements n generalizing n with
  | nil =>
    intro m hm
    rw [hl, List.suffix_nil] at hm
    simp [Combinator.Via, Combinator.candidates, hm]
  | cons a l ih =>
    have hrest := ih (Page.ancestorElements_of_cons h hl)
    have ha := hattempt a
    rw [search]
    cases hr : attempt a <;> rw [hr] at ha
    case found => exact (Combinator.via_descendant_of_cons h hl).mpr (.inl ha)
    case nowhere => exact .nowhere_via h (by simp [Combinator.candidates, hl]) ha
    case fromDescendant => exact hrest.of_parent h hl ha.1
    case fromLaterSibling => exact hrest.of_parent h hl ha

theorem justified_search_laterSibling :
    (search .laterSibling attempt (p.precedingElements n)).Justified p
      (Combinator.laterSibling.Via p P) n := by
  induction hl : p.precedingElements n generalizing n with
  | nil => simp [search, exhausted, Justified, Combinator.Via, Combinator.candidates, hl]
  | cons a l ih =>
    have hrest := ih (Page.precedingElements_of_cons h hl)
    have ha := hattempt a
    rw [search]
    cases hr : attempt a <;> rw [hr] at ha
    case found => exact (Combinator.via_laterSibling_of_cons h hl).mpr (.inl ha)
    case nowhere => exact .nowhere_via h (by simp [Combinator.candidates, hl]) ha
    case fromDescendant => exact .fromDescendant_via h (fun _ => List.Subset.refl _) hl ha
    case fromLaterSibling => exact hrest.of_sibling h hl ha

theorem justified_search_child :
    (search .child attempt (p.parentElement? n).toList).Justified p
      (Combinator.child.Via p P) n := by
  cases hp : p.parentElement? n with
  | none =>
    -- Nothing as high as `n` has a parent that is an element.
    intro m hm
    rw [Page.parentElement?_eq_head? h, List.head?_eq_none_iff] at hp
    rw [hp, List.suffix_nil] at hm
    simp [Combinator.Via, Combinator.candidates, Page.parentElement?_eq_head? h, hm]
  | some a =>
    have hvia : ∀ {m}, p.parentElement? m = some a → (Combinator.child.Via p P m ↔ P a) := by
      intro m hm
      simp [Combinator.Via, Combinator.candidates, hm]
    have hfail : ¬P a → fromDescendant.Justified p (Combinator.child.Via p P) n := by
      refine fun ha => ⟨fun hP => ha ((hvia hp).mp hP), fun m hm hP => ha ((hvia ?_).mp hP)⟩
      rw [Page.parentElement?_eq_head? h, Page.ancestorElements_of_mem_precedingElements h hm,
        ← Page.parentElement?_eq_head? h, hp]
    have ha := hattempt a
    rw [Option.toList_some, search]
    cases hr : attempt a <;> rw [hr] at ha
    case found => exact (hvia hp).mpr ha
    case nowhere => exact .nowhere_via h (by simp [Combinator.candidates, hp]) ha
    case fromDescendant => exact hfail ha.1
    case fromLaterSibling => exact hfail ha

theorem justified_search_nextSibling :
    (search .nextSibling attempt (p.precedingElements n).head?.toList).Justified p
      (Combinator.nextSibling.Via p P) n := by
  cases hl : p.precedingElements n with
  | nil => simp [search, exhausted, Justified, Combinator.Via, Combinator.candidates, hl]
  | cons a l =>
    have hvia : Combinator.nextSibling.Via p P n ↔ P a := by
      simp [Combinator.Via, Combinator.candidates, hl]
    have hnearest : ∀ m, Combinator.nextSibling.candidates p m ⊆ p.precedingElements m := by
      intro m k hk
      exact List.mem_of_head? (Option.mem_toList.mp hk)
    have ha := hattempt a
    rw [List.head?_cons, Option.toList_some, search]
    cases hr : attempt a <;> rw [hr] at ha
    case found => exact hvia.mpr ha
    case nowhere => exact .nowhere_via h (by simp [Combinator.candidates, hl]) ha
    case fromDescendant => exact .fromDescendant_via h hnearest hl ha
    case fromLaterSibling => exact fun hP => ha (hvia.mp hP)

/-- The answer at a combinator is justified if the answers for its candidates are. -/
theorem justified_search (c : Combinator) :
    (search c attempt (c.candidates p n)).Justified p (c.Via p P) n := by
  cases c with
  | descendant => exact justified_search_descendant h hattempt
  | child => exact justified_search_child h hattempt
  | nextSibling => exact justified_search_nextSibling h hattempt
  | laterSibling => exact justified_search_laterSibling h hattempt

end Search

end SearchResult

/-! ## Complex selectors -/

namespace Complex

variable {nested : Bool} {anchor : Option NodeId}

theorem search_compound (simples : List Simple) :
    (compound simples).search p nested anchor n =
      if compoundHolds p nested anchor n simples then .found else .fromLaterSibling := by
  rw [search, compoundHolds]

theorem search_step (simples : List Simple) (c : Combinator) (left : Complex) :
    (step simples c left).search p nested anchor n =
      if compoundHolds p nested anchor n simples then
        .search c (left.search p nested anchor) (c.candidates p n)
      else .fromLaterSibling := by
  rw [search, compoundHolds]

theorem justified_search (h : p.tree.Sound) :
    ∀ (c : Complex) (n : NodeId),
      (c.search p nested anchor n).Justified p (c.Selects p nested anchor) n
  | .compound simples, n => by
    rw [search_compound]
    split
    · assumption
    · assumption
  | .step simples c left, n => by
    rw [search_step]
    split
    next hn => exact (SearchResult.justified_search h (justified_search h left) c).and hn
    next hn => exact fun hselects => hn hselects.1
  | .anchor, n => by
    rw [search]
    split
    · assumption
    · assumption

/-- The search finds a match exactly if there is one. -/
theorem isFound_search_iff (h : p.tree.Sound) (c : Complex) (n : NodeId) :
    (c.search p nested anchor n).isFound = true ↔ c.Selects p nested anchor n :=
  (c.justified_search h n).isFound_iff

end Complex

end

end StyleTree
