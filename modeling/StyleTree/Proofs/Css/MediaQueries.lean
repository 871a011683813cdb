import StyleTree.Media
import StyleTree.Proofs.Css.Blanks
import StyleTree.Proofs.Text.Split

/-!
# Media lists and blanks

A media list is read alike whatever stands between its tokens and however they are spelled.
-/

namespace StyleTree

open Css

namespace Css

/-! ## Readers of bare values -/

/-- Nothing is left after blanks, or the same value of the values and of the bare ones. -/
theorem skipBlank_cases (vs : List ComponentValue) :
    (skipBlank vs = [] ∧ bareValues vs = []) ∨
      ∃ v rest, v.isBlank = false ∧ skipBlank vs = v :: rest ∧
        bareValues vs = v.bare :: bareValues rest := by
  induction vs with
  | nil => exact .inl ⟨rfl, rfl⟩
  | cons v vs ih =>
    by_cases hv : v.isBlank = true
    · have hskip : skipBlank (v :: vs) = skipBlank vs := List.dropWhile_cons_of_pos hv
      rw [hskip, bareValues_cons_blank hv]
      exact ih
    · have hv : v.isBlank = false := by simpa using hv
      exact .inr ⟨v, vs, hv, skipBlank_cons hv vs, bareValues_cons hv vs⟩

theorem isExhausted_bareValues (vs : List ComponentValue) :
    isExhausted (bareValues vs) = isExhausted vs := by
  induction vs with
  | nil => rfl
  | cons v vs ih =>
    by_cases hv : v.isBlank = true
    · rw [bareValues_cons_blank hv, ih]
      simp [isExhausted, hv]
    · have hv : v.isBlank = false := by simpa using hv
      rw [bareValues_cons hv]
      simp [isExhausted, hv]

theorem ident?_bareValues (vs : List ComponentValue) :
    ident? (bareValues vs) = (ident? vs).map fun (name, rest) => (name, bareValues rest) := by
  rcases skipBlank_cases vs with ⟨hskip, hbare⟩ | ⟨v, rest, hv, hskip, hbare⟩
  · rw [hbare, ident?, ident?, hskip]
    rfl
  · rw [hbare, ident?, ident?, hskip, skipBlank_cons ((isBlank_bare v).trans hv)]
    cases v with
    | token l =>
      obtain ⟨t, text, complete⟩ := l
      cases t <;> rfl
    | block => rfl

theorem keyword?_bareValues (word : String) (vs : List ComponentValue) :
    keyword? word (bareValues vs) = (keyword? word vs).map bareValues := by
  rw [keyword?, keyword?, ident?_bareValues]
  cases ident? vs with
  | none => rfl
  | some found =>
    dsimp only [Option.map_some]
    split <;> rfl

/-- An identifier is one of the values that are no blanks. -/
theorem length_bareValues_of_ident? {vs rest : List ComponentValue} {name : String}
    (h : ident? vs = some (name, rest)) :
    (bareValues rest).length < (bareValues vs).length := by
  obtain ⟨l, -, hskip⟩ := ident?_eq_some_iff.mp h
  rcases skipBlank_cases vs with ⟨hnil, -⟩ | ⟨v, rest', -, hcons, hbare⟩
  · rw [hnil] at hskip
    cases hskip
  · obtain ⟨-, rfl⟩ := List.cons.inj (hcons.symm.trans hskip)
    simp [hbare]

theorem length_bareValues_of_keyword? {word : String} {vs rest : List ComponentValue}
    (h : keyword? word vs = some rest) :
    (bareValues rest).length < (bareValues vs).length := by
  unfold keyword? at h
  split at h
  next hident =>
    split at h
    · cases h
      exact length_bareValues_of_ident? hident
    · cases h
  next => cases h

theorem pieces_bareValues {t : Token} (ht : t.isBlank = false) (vs : List ComponentValue) :
    pieces (·.isToken t) (bareValues vs) = (pieces (·.isToken t) vs).map bareValues := by
  have htoken {v : ComponentValue} (h : v.isToken t = true) : v.isBlank = false := by
    cases v with
    | token l => rw [ComponentValue.isBlank, beq_iff_eq.mp h, ht]
    | block => rfl
  induction vs with
  | nil => rfl
  | cons v vs ih =>
    cases hv : v.isToken t with
    | true =>
      rw [bareValues_cons (htoken hv), pieces_cons_of_pos hv, pieces_cons_of_pos, ih, List.map_cons]
      · rfl
      · rw [isToken_bare, hv]
    | false =>
      rw [pieces_cons_of_neg hv]
      cases hblank : v.isBlank with
      | true =>
        rw [bareValues_cons_blank hblank, ih]
        cases pieces (·.isToken t) vs <;> simp [bareValues_cons_blank hblank]
      | false =>
        have hbare : v.bare.isToken t = false := by rw [isToken_bare, hv]
        rw [bareValues_cons hblank, pieces_cons_of_neg hbare, ih]
        cases pieces (·.isToken t) vs <;> simp [bareValues_cons hblank]

end Css

namespace MediaQuery

theorem feature?_bareValues (vs : List ComponentValue) :
    feature? (bareValues vs) = (feature? vs).map bareValues := by
  rcases skipBlank_cases vs with ⟨hskip, hbare⟩ | ⟨v, rest, hv, hskip, hbare⟩
  · rw [hbare, feature?, feature?, hskip]
    rfl
  · rw [hbare, feature?, feature?, hskip, skipBlank_cons ((isBlank_bare v).trans hv)]
    cases v with
    | token => rfl
    | block o body close =>
      obtain ⟨t, text, complete⟩ := o
      cases t <;> rfl

theorem length_bareValues_of_feature? {vs rest : List ComponentValue}
    (h : feature? vs = some rest) : (bareValues rest).length < (bareValues vs).length := by
  rcases skipBlank_cases vs with ⟨hskip, hbare⟩ | ⟨v, rest', -, hskip, hbare⟩
  · rw [feature?, hskip] at h
    cases h
  · rw [feature?, hskip] at h
    split at h
    next heq =>
      cases h
      obtain ⟨-, rfl⟩ := List.cons.inj heq
      simp [hbare]
    next => cases h

theorem findSome?_keyword?_bareValues (joiners : List String) (vs : List ComponentValue) :
    joiners.findSome? (keyword? · (bareValues vs)) =
      (joiners.findSome? (keyword? · vs)).map bareValues := by
  induction joiners with
  | nil => rfl
  | cons word joiners ih =>
    rw [List.findSome?_cons, List.findSome?_cons, keyword?_bareValues, ih]
    cases keyword? word vs <;> rfl

theorem findSome?_keyword?_nil (joiners : List String) :
    joiners.findSome? (keyword? · []) = none :=
  List.findSome?_eq_none_iff.mpr fun _ _ => rfl

/-- Any bound that the values without blanks keep finds all features. -/
theorem features?_bareValues (joiners : List String) {n k : Nat} {vs : List ComponentValue}
    (hn : (bareValues vs).length ≤ n) (hk : (bareValues vs).length ≤ k) :
    features? joiners k (bareValues vs) = (features? joiners n vs).map bareValues := by
  induction n generalizing k vs with
  | zero =>
    have hnil : bareValues vs = [] := List.length_eq_zero_iff.mp (Nat.le_zero.mp hn)
    cases k with
    | zero => rfl
    | succ k => rw [features?, features?, hnil, findSome?_keyword?_nil, Option.map_some, hnil]
  | succ n ih =>
    cases k with
    | zero =>
      have hnil : bareValues vs = [] := List.length_eq_zero_iff.mp (Nat.le_zero.mp hk)
      have hnone := findSome?_keyword?_bareValues joiners vs
      rw [hnil, findSome?_keyword?_nil, eq_comm, Option.map_eq_none_iff] at hnone
      rw [features?, features?, hnone, Option.map_some]
    | succ k =>
      rw [features?, features?, findSome?_keyword?_bareValues]
      cases hfound : joiners.findSome? (keyword? · vs) with
      | none => rfl
      | some rest =>
        obtain ⟨word, -, hword⟩ := List.exists_of_findSome?_eq_some hfound
        have hrest := length_bareValues_of_keyword? hword
        dsimp only [Option.map_some]
        rw [feature?_bareValues]
        cases hfeature : feature? rest with
        | none => rfl
        | some rest' =>
          have hrest' := length_bareValues_of_feature? hfeature
          exact ih (by omega) (by omega)

theorem length_bareValues_le (vs : List ComponentValue) : (bareValues vs).length ≤ vs.length := by
  rw [bareValues, List.length_map]
  exact List.length_filter_le _ _

theorem body?_bareValues (only : Bool) (vs : List ComponentValue) :
    body? only (bareValues vs) =
      (body? only vs).map fun (type, rest) => (type, bareValues rest) := by
  have hfeatures (joiners : List String) (rest : List ComponentValue) :=
    features?_bareValues joiners (length_bareValues_le rest) (Nat.le_refl _)
  rw [body?, body?, ident?_bareValues]
  cases ident? vs with
  | some found =>
    dsimp only [Option.map_some]
    split
    · rfl
    · rw [hfeatures, Option.map_map, Option.map_map]
      rfl
  | none =>
    dsimp only [Option.map_none]
    split
    · rfl
    · rw [feature?_bareValues]
      cases feature? vs with
      | none => rfl
      | some rest =>
        dsimp only [Option.map_some]
        rw [hfeatures, Option.map_map, Option.map_map]
        rfl

theorem read?_bareValues (vs : List ComponentValue) : read? (bareValues vs) = read? vs := by
  have hword (word : String) (us : List ComponentValue) :
      (keyword? word (bareValues us)).isSome = (keyword? word us).isSome := by
    rw [keyword?_bareValues, Option.isSome_map]
  have hafter (word : String) (us : List ComponentValue) :
      (keyword? word (bareValues us)).getD (bareValues us) =
        bareValues ((keyword? word us).getD us) := by
    rw [keyword?_bareValues]
    cases keyword? word us <;> rfl
  simp only [read?, hword, hafter]
  rw [← apply_ite bareValues, body?_bareValues]
  cases body? _ _ with
  | none => rfl
  | some found =>
    dsimp only [Option.map_some]
    rw [isExhausted_bareValues]

end MediaQuery

/-- A media list says the same if blanks and spelling are disregarded. -/
theorem MediaList.ofValues_bareValues (vs : List ComponentValue) :
    ofValues (bareValues vs) = ofValues vs := by
  have hquery (piece : List ComponentValue) :
      MediaQuery.ofValues (bareValues piece) = MediaQuery.ofValues piece := by
    rw [MediaQuery.ofValues, MediaQuery.read?_bareValues, MediaQuery.ofValues]
  rw [ofValues, ofValues, isExhausted_bareValues, pieces_bareValues rfl, List.map_map]
  simp only [Function.comp_def, hquery]

end StyleTree
