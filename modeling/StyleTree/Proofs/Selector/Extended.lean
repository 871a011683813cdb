import Mathlib.Data.List.DropRight
import StyleTree.Proofs.Selector.Reread

/-!
# A pseudo-element after a selector

A reader looks one value ahead at most, and where the values of a selector end, two colons are
nothing that it could take for more of the same part. So with a pseudo-element behind it a selector
is read as it is read alone, up to its end, and there the pseudo-element is read.
-/

namespace StyleTree

open Css Css.ComponentValue

namespace SelectorReader

variable {α β : Type} {vs mid rest start after : List ComponentValue} {v : ComponentValue}

/-! ## Values -/

theorem skipComments_append (vs after : List ComponentValue) :
    skipComments (vs ++ after) =
      if (skipComments vs).isEmpty then skipComments after else skipComments vs ++ after :=
  List.dropWhile_append

theorem next?_cons (h : skipComments vs = v :: rest) : next? vs = .ok (some v) rest := by
  unfold next?
  rw [get_bind, h]
  rfl

theorem next?_nil (h : skipComments vs = []) : next? vs = .ok none [] := by
  unfold next?
  rw [get_bind, h]
  rfl

/-- After nothing but comments the next value is that of what follows. -/
theorem next?_append_nil (h : skipComments vs = []) (hafter : skipComments after = v :: rest) :
    next? (vs ++ after) = .ok (some v) rest := by
  refine next?_cons ?_
  rw [skipComments_append, h, hafter]
  rfl

/-- A value that is there is the next one whatever follows. -/
theorem next?_append (h : next? vs = .ok (some v) rest) (after : List ComponentValue) :
    rest.length < vs.length ∧ rest <:+ vs ∧ next? (vs ++ after) = .ok (some v) (rest ++ after) := by
  cases hskip : skipComments vs with
  | nil =>
    rw [next?_nil hskip] at h
    cases h
  | cons w ws =>
    rw [next?_cons hskip] at h
    cases h
    have hsuffix := skipComments_suffix vs
    rw [hskip] at hsuffix
    refine ⟨hsuffix.length_le, (List.suffix_cons v rest).trans hsuffix, next?_cons ?_⟩
    rw [skipComments_append, hskip]
    rfl

theorem next_append (h : next vs = .ok v rest) (after : List ComponentValue) :
    rest <:+ vs ∧ next (vs ++ after) = .ok v (rest ++ after) := by
  obtain ⟨o, mid, hnext, ho⟩ := bind_eq_ok h
  cases o with
  | none => cases ho
  | some w =>
    cases ho
    obtain ⟨-, hsuffix, happend⟩ := next?_append hnext after
    exact ⟨hsuffix, bind_ok happend⟩

/-! ## Readers with more values to read -/

/-- With `after` behind the values, the second reader reads what the first one reads without. Where
that is nothing, reading goes back to `start`. -/
def Extends (start after : List ComponentValue) (x y : SelectorReader (Option α)) : Prop :=
  ∀ vs o rest, x vs = .ok o rest →
    y (vs ++ after) = .ok o (rest ++ after) ∧ if o.isSome then rest <:+ vs else rest = start

namespace Extends

variable {x y : SelectorReader (Option α)}

theorem found (a : α) : Extends start after (pure (some a)) (pure (some a)) := by
  rintro vs _ _ ⟨⟩
  exact ⟨rfl, List.suffix_rfl⟩

theorem ofOption (o : Option α) :
    Extends start after (some <$> ofOption o) (some <$> ofOption o) := by
  cases o with
  | none => rintro vs o rest ⟨⟩
  | some a => exact found a

theorem refuse : Extends start after refuse x := by
  rintro vs o rest ⟨⟩

theorem stop : Extends start after (do set start; return (none : Option α))
    (do set (start ++ after); return none) := by
  rintro vs _ _ ⟨⟩
  exact ⟨rfl, rfl⟩

/-- Both check what does not depend on the values. -/
theorem checked {c : Prop} [Decidable c] (h : Extends start after x y) :
    Extends start after (if c then SelectorReader.refuse >>= fun _ : PUnit => x else x)
      (if c then SelectorReader.refuse >>= fun _ : PUnit => y else y) := by
  split
  · rintro vs o rest ⟨⟩
  · exact h

theorem next {f g : ComponentValue → SelectorReader (Option α)}
    (h : ∀ v, Extends start after (f v) (g v)) :
    Extends start after (next >>= f) (next >>= g) := by
  intro vs o rest hread
  obtain ⟨v, mid, hnext, hread⟩ := bind_eq_ok hread
  obtain ⟨hsuffix, happend⟩ := next_append hnext after
  obtain ⟨hgoes, hrest⟩ := h v mid o rest hread
  refine ⟨(bind_ok happend).trans hgoes, ?_⟩
  cases o with
  | none => exact hrest
  | some a => exact List.IsSuffix.trans hrest hsuffix

/-- A value that is there is read by both. -/
theorem next?_bind {f g : Option ComponentValue → SelectorReader (Option α)}
    (h : ∀ v, Extends start after (f (some v)) (g (some v))) (hvs : skipComments vs ≠ [])
    {o : Option α} (hread : (next? >>= f) vs = .ok o rest) :
    (next? >>= g) (vs ++ after) = .ok o (rest ++ after) ∧
      if o.isSome then rest.length < vs.length ∧ rest <:+ vs else rest = start := by
  obtain ⟨v, rest', hskip⟩ := List.exists_cons_of_ne_nil hvs
  have hnext := next?_cons hskip
  rw [bind_ok hnext] at hread
  obtain ⟨hlength, hsuffix, happend⟩ := next?_append hnext after
  obtain ⟨hgoes, hrest⟩ := h v _ o rest hread
  refine ⟨(bind_ok happend).trans hgoes, ?_⟩
  cases o with
  | none => exact hrest
  | some a =>
    have hrest : rest <:+ rest' := hrest
    exact ⟨Nat.lt_of_le_of_lt hrest.length_le hlength, hrest.trans hsuffix⟩

end Extends

/-! ## Parts of compounds -/

variable {nested : NestedReader} {place : SelectorPlace}

theorem part?_none (h : skipComments vs = []) : part? nested place vs = .ok none vs := by
  unfold part?
  rw [get_bind, bind_ok (next?_nil h)]
  rfl

/-- Where another value comes, the next part is read whatever follows. -/
theorem part?_append {o : Option Part} (hvs : skipComments vs ≠ [])
    (h : part? nested place vs = .ok o rest) (after : List ComponentValue) :
    part? nested place (vs ++ after) = .ok o (rest ++ after) ∧
      if o.isSome then rest.length < vs.length ∧ rest <:+ vs else rest = vs := by
  unfold part? at h ⊢
  rw [get_bind] at h ⊢
  refine Extends.next?_bind (fun v => ?_) hvs h
  split
  · exact .checked (.found _)
  · refine .checked (.next fun w => ?_)
    split
    · exact .found _
    · exact .refuse
  · refine .checked ?_
    split
    · split
      · exact .found _
      · exact .refuse
    · exact .refuse
  · refine .next fun first => ?_
    have hnamed : ∀ {x y : ComponentValue → SelectorReader (Option Part)},
        (∀ named, Extends vs after (x named) (y named)) →
        Extends vs after (if first.isToken .colon = true then next >>= x else pure first >>= x)
          (if first.isToken .colon = true then next >>= y else pure first >>= y) := by
      intro x y h
      split
      · exact .next h
      · exact h first
    refine hnamed fun named => ?_
    beta_reduce
    split
    · exact .ofOption _
    · exact .ofOption _
    · exact .refuse
  · exact .stop

/-! ## Type selectors -/

/-- As `Extends`, for readers that look at what follows, or that find nothing at the end of the
values. Reading stays within `start`. -/
def Peeks (start after : List ComponentValue) (x y : SelectorReader (Option α)) : Prop :=
  ∀ vs o rest, vs <:+ start → x vs = .ok o rest → rest <:+ start ∧
    (y (vs ++ after) = .ok o (rest ++ after) ∨ o = none ∧ rest = [])

namespace Peeks

variable {x y : SelectorReader (Option α)}

theorem back {s : List ComponentValue} (hs : s <:+ start) (o : Option α) :
    Peeks start after (do set s; return o) (do set (s ++ after); return o) := by
  rintro vs _ _ - ⟨⟩
  exact ⟨hs, .inl rfl⟩

theorem found (a : Option α) : Peeks start after (pure a) (pure a) := by
  rintro vs _ _ hvs ⟨⟩
  exact ⟨hvs, .inl rfl⟩

theorem refuse : Peeks start after refuse y := by
  rintro vs o rest - ⟨⟩

theorem get {f g : List ComponentValue → SelectorReader (Option α)}
    (h : ∀ s, s <:+ start → Peeks start after (f s) (g (s ++ after))) :
    Peeks start after (get >>= f) (get >>= g) :=
  fun vs o rest hvs hread => h vs hvs vs o rest hvs hread

/-- At the end of the values, `w` comes next. -/
theorem next? {w : ComponentValue} {more : List ComponentValue}
    (hafter : skipComments after = w :: more)
    {f g : Option ComponentValue → SelectorReader (Option α)}
    (hsome : ∀ v, Peeks start after (f (some v)) (g (some v)))
    (hnone : ∀ o rest, f none [] = .ok o rest → rest <:+ start ∧
      (g (some w) more = .ok o (rest ++ after) ∨ o = none ∧ rest = [])) :
    Peeks start after (next? >>= f) (next? >>= g) := by
  intro vs o rest hvs hread
  cases hskip : skipComments vs with
  | nil =>
    rw [bind_ok (next?_nil hskip)] at hread
    rw [bind_ok (next?_append_nil hskip hafter)]
    exact hnone o rest hread
  | cons v rest' =>
    have hnext := next?_cons hskip
    obtain ⟨-, hsuffix, happend⟩ := next?_append hnext after
    rw [bind_ok hnext] at hread
    rw [bind_ok happend]
    exact hsome v rest' o rest (hsuffix.trans hvs) hread

end Peeks

/-- Two colons after the values of a type selector change nothing about it. -/
theorem typeName?_append {t : Option (Bool × Option String)} (h : typeName? vs = .ok t rest)
    (more : List ComponentValue) :
    rest <:+ vs ∧ (typeName? (vs ++ colon :: more) = .ok t (rest ++ colon :: more) ∨
      t = none ∧ rest = []) := by
  have hprefixed : ∀ b, Peeks vs (colon :: more) (prefixedName b) (prefixedName b) := by
    intro b
    refine Peeks.next? rfl (fun v => ?_) ?_
    · split
      next hnone => cases hnone
      · exact .found _
      · exact .found _
      · exact .refuse
    · rintro o rest ⟨⟩
      exact ⟨List.nil_suffix, .inr ⟨rfl, rfl⟩⟩
  refine Peeks.get (fun s hs => Peeks.next? rfl (fun v => ?_) ?_) vs t rest List.suffix_rfl h
  · split
    · refine Peeks.get fun s hs => Peeks.next? rfl (fun w => ?_) ?_
      · split
        · exact .refuse
        · exact .back hs _
      · rintro o rest ⟨⟩
        exact ⟨hs, .inl rfl⟩
    · refine Peeks.get fun s hs => Peeks.next? rfl (fun w => ?_) ?_
      · split
        · exact hprefixed false
        · exact .back hs _
      · rintro o rest ⟨⟩
        exact ⟨hs, .inl rfl⟩
    · exact hprefixed true
    · exact .back hs none
  · rintro o rest ⟨⟩
    exact ⟨hs, .inl rfl⟩

/-! ## Compounds -/

theorem parts_nil (limit : Nat) : parts nested limit place [] = .ok ⟨[], none⟩ [] := by
  cases limit <;> rfl

theorem skipBlank_append_values (vs : List ComponentValue) (q : PseudoElement) :
    skipBlank (vs ++ q.values) = skipBlank vs ++ q.values := by
  unfold skipBlank
  rw [List.dropWhile_append]
  split
  next hnil =>
    rw [List.isEmpty_iff.mp hnil]
    rfl
  · rfl

/-- A compound is its type selector with its parts. -/
theorem compound_eq (hplace : place.afterPseudo = false) {type : Option (Bool × Option String)}
    (htype : typeName? (skipBlank vs) = .ok type mid) :
    compound nested place vs = (do
      let more ← parts nested mid.length place
      return ⟨type.elim [] typeSimples ++ more.simples, more.pseudo⟩ :
        SelectorReader CompoundParts) mid := by
  show (typeName? >>= _) (skipBlank vs) = _
  rw [bind_ok htype, hplace, Bool.and_false]
  rfl

section PseudoElement

variable (q : PseudoElement) (hnested : place.nested = false) (hplace : place.afterPseudo = false)

include hnested hplace

/-- After nothing but comments, the pseudo-element comes next. -/
theorem part?_append_values (h : skipComments vs = []) :
    part? nested place (vs ++ q.values) = .ok (some (.pseudoElement q)) [] := by
  have hread : part? nested place (q.values ++ []) = .ok (some (.pseudoElement q)) [] :=
    part?_pseudoElement hnested hplace q
  rw [List.append_nil] at hread
  unfold part? at hread ⊢
  rw [get_bind] at hread ⊢
  have hhead : skipComments q.values = colon :: [colon, ident q.name] := rfl
  rw [bind_ok (next?_append_nil h hhead)]
  exact hread

theorem parts_append_values {limit : Nat} (hlimit : 0 < limit) (h : skipComments vs = []) :
    parts nested limit place (vs ++ q.values) = .ok ⟨[], some (q, [])⟩ [] := by
  obtain ⟨limit, rfl⟩ := Nat.exists_eq_add_one.mpr hlimit
  unfold parts
  rw [bind_ok (part?_append_values q hnested hplace h)]
  show (parts nested limit _ >>= _) [] = _
  rw [bind_ok (parts_nil limit)]
  rfl

/-- What the parts of a compound are with the pseudo-element behind them: the same if the compound
ends before the values do, else the same with the pseudo-element. -/
theorem parts_append {limit limit' : Nat} {c : CompoundParts} (hlimit : vs.length ≤ limit)
    (hlimit' : vs.length < limit') (h : parts nested limit place vs = .ok c rest)
    (hpseudo : c.pseudo = none) :
    rest <:+ vs ∧
      (skipComments rest = [] →
        parts nested limit' place (vs ++ q.values) = .ok ⟨c.simples, some (q, [])⟩ []) ∧
      (skipComments rest ≠ [] →
        parts nested limit' place (vs ++ q.values) = .ok c (rest ++ q.values)) := by
  induction limit generalizing vs limit' c with
  | zero =>
    obtain rfl : vs = [] := List.length_eq_zero_iff.mp (Nat.le_zero.mp hlimit)
    cases h
    exact ⟨List.suffix_rfl, parts_append_values q hnested hplace hlimit', absurd rfl⟩
  | succ limit ih =>
    obtain ⟨limit', rfl⟩ := Nat.exists_eq_add_one.mpr (Nat.zero_lt_of_lt hlimit')
    unfold parts at h
    obtain ⟨o, mid, hpart, h⟩ := bind_eq_ok h
    by_cases hskip : skipComments vs = []
    · rw [part?_none hskip] at hpart
      cases hpart
      cases h
      exact ⟨List.suffix_rfl, parts_append_values q hnested hplace (Nat.succ_pos limit'),
        fun hsome => absurd hskip hsome⟩
    obtain ⟨happend, hmid⟩ := part?_append hskip hpart q.values
    unfold parts
    rw [bind_ok happend]
    rcases o with _ | s | p
    · cases h
      obtain rfl : rest = vs := hmid
      exact ⟨List.suffix_rfl, fun hnil => absurd hnil hskip, fun _ => rfl⟩
    · obtain ⟨hlength, hsuffix⟩ : mid.length < vs.length ∧ mid <:+ vs := hmid
      obtain ⟨more, rest', hmore, h⟩ := bind_eq_ok h
      cases h
      obtain ⟨hrest, hend, hgoes⟩ := ih (Nat.le_of_lt_succ (Nat.lt_of_lt_of_le hlength hlimit))
        (Nat.lt_of_lt_of_le hlength (Nat.le_of_lt_succ hlimit')) hmore hpseudo
      refine ⟨hrest.trans hsuffix, fun hnil => ?_, fun hsome => ?_⟩
      · show (parts nested limit' place >>= _) _ = _
        rw [bind_ok (hend hnil)]
        rfl
      · show (parts nested limit' place >>= _) _ = _
        rw [bind_ok (hgoes hsome)]
        rfl
    · obtain ⟨more, rest', -, h⟩ := bind_eq_ok h
      cases h
      cases hpseudo

/-- A compound that is not empty, with the pseudo-element behind the values. -/
theorem compound_append {c : CompoundParts} (h : compound nested place vs = .ok c rest)
    (hpseudo : c.pseudo = none) (hempty : c.isEmpty = false) :
    rest <:+ vs ∧
      (skipComments rest = [] →
        compound nested place (vs ++ q.values) = .ok ⟨c.simples, some (q, [])⟩ []) ∧
      (skipComments rest ≠ [] →
        compound nested place (vs ++ q.values) = .ok c (rest ++ q.values)) := by
  obtain ⟨type, mid, htype, -⟩ := bind_eq_ok (show (typeName? >>= _) (skipBlank vs) = _ from h)
  rw [compound_eq hplace htype] at h
  obtain ⟨more, rest', hmore, h⟩ := bind_eq_ok h
  cases h
  have hmid := typeName?_append htype [colon, ident q.name]
  rcases hmid with ⟨hmid, htype | ⟨rfl, rfl⟩⟩
  · have htype : typeName? (skipBlank (vs ++ q.values)) = .ok type (mid ++ q.values) := by
      rw [skipBlank_append_values]
      exact htype
    have hlimit : mid.length < (mid ++ q.values).length := by simp [PseudoElement.values]
    obtain ⟨hrest, hend, hgoes⟩ :=
      parts_append q hnested hplace (Nat.le_refl _) hlimit hmore hpseudo
    rw [compound_eq hplace htype]
    refine ⟨hrest.trans (hmid.trans (List.dropWhile_suffix _)), fun hnil => ?_, fun hsome => ?_⟩
    · rw [bind_ok (hend hnil)]
      rfl
    · rw [bind_ok (hgoes hsome)]
      rfl
  · -- There is nothing in the compound.
    rw [List.length_nil, parts_nil] at hmore
    cases hmore
    cases hempty

end PseudoElement

/-! ## Combinators -/

/-- The values do not end in white space or a comment. -/
def EndsSolid (vs : List ComponentValue) : Prop :=
  ∀ v, vs.getLast? = some v → v.isBlank = false

theorem EndsSolid.of_suffix (h : EndsSolid vs) (hrest : rest <:+ vs) : EndsSolid rest := by
  obtain ⟨us, rfl⟩ := hrest
  intro v hv
  exact h v (by rw [List.getLast?_append, hv]; rfl)

theorem isExhausted_iff (vs : List ComponentValue) : isExhausted vs = true ↔ skipBlank vs = [] := by
  simp [isExhausted, skipBlank, List.dropWhile_eq_nil_iff]

/-- Nothing but blanks that end in none is nothing. -/
theorem EndsSolid.eq_nil (h : EndsSolid vs) (hvs : skipBlank vs = []) : vs = [] := by
  cases hlast : vs.getLast? with
  | none => exact List.getLast?_eq_none_iff.mp hlast
  | some v =>
    have hblank : v.isBlank = true :=
      List.dropWhile_eq_nil_iff.mp hvs v (List.mem_of_getLast? hlast)
    rw [h v hlast] at hblank
    cases hblank

theorem skipBlank_of_skipComments (h : skipComments vs = []) : skipBlank vs = [] := by
  refine List.dropWhile_eq_nil_iff.mpr fun v hv => ?_
  have hcomment : v.isComment = true := List.dropWhile_eq_nil_iff.mp h v hv
  cases v with
  | token l =>
    rw [ComponentValue.isBlank, beq_iff_eq.mp hcomment]
    rfl
  | block => cases hcomment

theorem skipBlank_append (hvs : skipBlank vs ≠ []) (after : List ComponentValue) :
    skipBlank (vs ++ after) = skipBlank vs ++ after ∧
      (vs ++ after).takeWhile (·.isBlank) = vs.takeWhile (·.isBlank) := by
  induction vs with
  | nil => exact absurd rfl hvs
  | cons v vs ih =>
    unfold skipBlank at ih hvs ⊢
    rw [List.cons_append, List.dropWhile_cons, List.dropWhile_cons, List.takeWhile_cons,
      List.takeWhile_cons]
    rw [List.dropWhile_cons] at hvs
    split
    next hv =>
      rw [if_pos hv] at hvs
      obtain ⟨hdrop, htake⟩ := ih hvs
      exact ⟨hdrop, congrArg (v :: ·) htake⟩
    next => exact ⟨rfl, rfl⟩

/-- The combinator that a value other than white space stands for. -/
def delimCombinator? : ComponentValue → Option Combinator
  | .token ⟨.delim '>', _, _⟩ => some .child
  | .token ⟨.delim '+', _, _⟩ => some .nextSibling
  | .token ⟨.delim '~', _, _⟩ => some .laterSibling
  | _ => none

theorem combinator?_cons {vs more : List ComponentValue} {v : ComponentValue}
    (h : skipBlank vs = v :: more) :
    combinator? vs = match delimCombinator? v with
      | some c => .ok (some c) more
      | none => .ok (if (vs.takeWhile (·.isBlank)).any (·.isToken .whitespace) then some .descendant
          else none) (v :: more) := by
  unfold combinator?
  rw [get_bind, h]
  generalize (if (vs.takeWhile (·.isBlank)).any (·.isToken .whitespace) = true then
    some Combinator.descendant else none) = spaced
  generalize hl : v :: more = l
  split
  · cases hl
  · cases hl; rfl
  · cases hl; rfl
  · cases hl; rfl
  next hchild hnext hlater =>
    subst hl
    unfold delimCombinator?
    split
    next heq =>
      split at heq
      · exact absurd rfl (hchild _ _ _)
      · exact absurd rfl (hnext _ _ _)
      · exact absurd rfl (hlater _ _ _)
      · cases heq
    · rfl

/-- Where something comes after the blanks, the combinator is read whatever follows, and where there
is none nothing but the blanks is skipped. -/
theorem combinator?_append {o : Option Combinator} (h : combinator? vs = .ok o rest)
    (hvs : skipBlank vs ≠ []) (after : List ComponentValue) :
    rest <:+ vs ∧ combinator? (vs ++ after) = .ok o (rest ++ after) ∧
      (o = none → skipBlank vs = rest) := by
  obtain ⟨v, more, hv⟩ := List.exists_cons_of_ne_nil hvs
  obtain ⟨hskip, htake⟩ := skipBlank_append hvs after
  rw [hv, List.cons_append] at hskip
  have hsuffix : v :: more <:+ vs := hv ▸ List.dropWhile_suffix _
  rw [combinator?_cons hskip, htake, hv]
  rw [combinator?_cons hv] at h
  cases hdelim : delimCombinator? v with
  | some c =>
    rw [hdelim] at h
    cases h
    exact ⟨(List.suffix_cons v _).trans hsuffix, rfl, nofun⟩
  | none =>
    rw [hdelim] at h
    cases h
    exact ⟨hsuffix, rfl, fun _ => rfl⟩

/-! ## Selectors -/

section PseudoElement

variable (q : PseudoElement) (hnested : place.nested = false) (hplace : place.afterPseudo = false)

include hnested hplace

/-- A selector that is read to its end is read with the pseudo-element behind it. -/
theorem steps_append {limit limit' : Nat} {left : Option (Complex × Combinator)} {s : Selector}
    (hlimit : limit ≤ limit') (h : steps nested place limit left vs = .ok s rest)
    (hpseudo : s.pseudo = none) (hrest : isExhausted rest = true) (hsolid : EndsSolid vs) :
    steps nested place limit' left (vs ++ q.values) = .ok ⟨s.complex, some (q, [])⟩ [] := by
  induction limit generalizing limit' left vs with
  | zero => cases h
  | succ limit ih =>
    obtain ⟨limit', rfl⟩ := Nat.exists_eq_add_one.mpr (Nat.zero_lt_of_lt hlimit)
    rw [steps_succ] at h ⊢
    obtain ⟨c, mid, hcompound, h⟩ := bind_eq_ok h
    split at h
    · cases h
    next hempty =>
    rw [Bool.not_eq_true] at hempty
    unfold goOn at h
    rw [hplace, Bool.or_false] at h
    split at h
    next hsome =>
      -- The selector has a pseudo-element of its own.
      cases h
      exact absurd hsome (by simpa using hpseudo)
    next hnone =>
    have hc : c.pseudo = none := by simpa using hnone
    obtain ⟨hmid, hend, hgoes⟩ := compound_append q hnested hplace hcompound hc hempty
    obtain ⟨o, mid', hcombinator, h⟩ := bind_eq_ok h
    by_cases hblank : skipBlank mid = []
    · -- The values end here.
      obtain rfl := (hsolid.of_suffix hmid).eq_nil hblank
      cases hcombinator
      cases h
      rw [bind_ok (hend rfl), if_neg (by simp [CompoundParts.isEmpty])]
      rfl
    · have hread := hgoes fun hcomments => hblank (skipBlank_of_skipComments hcomments)
      obtain ⟨hmid', happend, hskipped⟩ := combinator?_append hcombinator hblank q.values
      cases o with
      | none =>
        -- Something is left.
        cases h
        have hskip : skipBlank (skipBlank mid) = skipBlank mid := List.dropWhile_idempotent _ mid
        rw [isExhausted_iff, ← hskipped rfl, hskip] at hrest
        exact absurd hrest hblank
      | some combinator =>
        rw [bind_ok hread, if_neg (by simp [hempty])]
        unfold goOn
        rw [hplace, if_neg (by simpa using hnone), bind_ok happend]
        dsimp only at h ⊢
        split at h
        · cases h
        next hsingle =>
          rw [if_neg hsingle]
          exact ih (Nat.le_of_succ_le_succ hlimit) h ((hsolid.of_suffix hmid).of_suffix hmid')

theorem entryOf_append {s : Selector} (h : entryOf nested place .strict vs = .ok s)
    (hpseudo : s.pseudo = none) (hsolid : EndsSolid vs) :
    entryOf nested place .strict (vs ++ q.values) = .ok ⟨s.complex, some (q, [])⟩ := by
  have hentry : ∀ us, entry nested place .strict us =
      steps nested place ((skipBlank us).length + 1) none (skipBlank us) := fun _ => rfl
  unfold entryOf at h ⊢
  rw [hentry] at h ⊢
  split at h
  next s' rest hread =>
    split at h
    next hrest =>
      cases h
      have hlimit : (skipBlank vs).length + 1 ≤ (skipBlank vs ++ q.values).length + 1 := by simp
      have happend := steps_append q hnested hplace hlimit hread hpseudo hrest
        (hsolid.of_suffix (List.dropWhile_suffix _))
      rw [skipBlank_append_values, happend]
      rfl
    · cases h
  · cases h

end PseudoElement

end SelectorReader

/-! ## Lists -/

/-- A list that is one piece is not cut. -/
theorem eq_of_pieces_eq_singleton {α : Type} {p : α → Bool} {xs piece : List α}
    (h : pieces p xs = [piece]) : piece = xs ∧ ∀ x ∈ xs, p x = false := by
  induction xs using pieces_induction p generalizing piece with
  | nil =>
    cases h
    exact ⟨rfl, nofun⟩
  | separator x xs hx hpieces ih =>
    exact absurd (List.cons.inj (hpieces.symm.trans h)).2 (pieces_ne_nil p xs)
  | other x xs w ws hx hrest hpieces ih =>
    obtain ⟨rfl, rfl⟩ := List.cons.inj (hpieces.symm.trans h)
    obtain ⟨rfl, hxs⟩ := ih hrest
    exact ⟨rfl, List.forall_mem_cons.mpr ⟨hx, hxs⟩⟩

theorem eq_singleton_of_mapM {α β : Type} {f : α → Option β} {xs : List α} {y : β}
    (h : xs.mapM f = some [y]) : ∃ x, xs = [x] ∧ f x = some y := by
  rcases xs with _ | ⟨x, _ | ⟨x', xs⟩⟩
  · simp at h
  · exact ⟨x, rfl, by simpa [List.mapM_cons, Option.bind_eq_some_iff] using h⟩
  · simp [List.mapM_cons, Option.bind_eq_some_iff] at h

theorem SelectorReader.depthOf_append_values (vs : List ComponentValue) (q : PseudoElement) :
    depthOf (vs ++ q.values) = depthOf vs := by
  rw [depthOf_append]
  exact Nat.max_eq_left (Nat.zero_le _)

namespace Selector

/-- The selector for the pseudo-element of what it selects. -/
def withPseudo (s : Selector) (q : PseudoElement) : Selector :=
  ⟨s.complex, some (q, [])⟩

/-- A selector without a pseudo-element, with one written after it. -/
theorem ofValues?_append {vs : List ComponentValue} {s : Selector} (q : PseudoElement)
    (h : ofValues? vs = some [s]) (hpseudo : s.pseudo = none)
    (hsolid : SelectorReader.EndsSolid vs) :
    ofValues? (vs ++ q.values) = some [s.withPseudo q] := by
  unfold ofValues? at h ⊢
  rw [SelectorReader.depthOf_append_values]
  obtain ⟨piece, hpieces, hread⟩ := eq_singleton_of_mapM h
  obtain ⟨rfl, hcomma⟩ := eq_of_pieces_eq_singleton hpieces
  have hvalues : ∀ v ∈ q.values, v.isToken .comma = false := by
    intro v hv
    rcases List.mem_cons.mp hv with rfl | hv
    · rfl
    rcases List.mem_cons.mp hv with rfl | hv
    · rfl
    obtain rfl := List.mem_singleton.mp hv
    rfl
  have happend : pieces (·.isToken .comma) (piece ++ q.values) = [piece ++ q.values] :=
    pieces_of_forall fun v hv => (List.mem_append.mp hv).elim (hcomma v) (hvalues v)
  dsimp only
  rw [happend, List.mapM_cons,
    SelectorReader.entryOf_append q rfl rfl (eq_ok_of_toOption hread) hpseudo hsolid]
  rfl

end Selector

end StyleTree
