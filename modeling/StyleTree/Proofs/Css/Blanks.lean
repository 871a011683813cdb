import Mathlib.Data.List.TakeDrop
import Mathlib.Data.List.TakeWhile
import StyleTree.Proofs.Css.Nested

/-!
# Blanks between values

What is read after white space and comments have been skipped.
-/

namespace StyleTree.Css

theorem skipBlank_of_blanks {before : List ComponentValue} (h : ∀ v ∈ before, v.isBlank = true)
    (vs : List ComponentValue) : skipBlank (before ++ vs) = skipBlank vs :=
  List.dropWhile_append_of_pos h

theorem skipBlank_cons {v : ComponentValue} (h : v.isBlank = false) (vs : List ComponentValue) :
    skipBlank (v :: vs) = v :: vs :=
  List.dropWhile_cons_of_neg (by simp [h])

theorem exists_append_skipBlank (vs : List ComponentValue) :
    ∃ before, (∀ v ∈ before, v.isBlank = true) ∧ vs = before ++ skipBlank vs :=
  ⟨vs.takeWhile (·.isBlank), fun _ => List.mem_takeWhile_imp, List.takeWhile_append_dropWhile.symm⟩

theorem ident?_eq_some_iff {vs rest : List ComponentValue} {name : String} :
    ident? vs = some (name, rest) ↔
      ∃ l : Lexeme, l.token = .ident name ∧ skipBlank vs = .token l :: rest := by
  unfold ident?
  constructor
  · intro h
    split at h
    next s text complete rest hskip =>
      cases h
      exact ⟨_, rfl, hskip⟩
    next => cases h
  · rintro ⟨⟨token, text, complete⟩, rfl, hskip⟩
    rw [hskip]

/-! ## Bare values -/

/-- The token of the lexeme without its spelling. -/
def Lexeme.bare (l : Lexeme) : Lexeme :=
  ⟨l.token, [], true⟩

/-- The tokens of the lexemes without their spelling, but for blanks. -/
def bareLexemes (ls : List Lexeme) : List Lexeme :=
  (ls.filter (!·.token.isBlank)).map Lexeme.bare

/-- The value without its spelling, and without its contents if it is a block. -/
def ComponentValue.bare : ComponentValue → ComponentValue
  | .token l => .token l.bare
  | .block o _ _ => .block o.bare [] none

/-- The values without their spelling and contents, but for blanks. -/
def bareValues (vs : List ComponentValue) : List ComponentValue :=
  (vs.filter (!·.isBlank)).map ComponentValue.bare

theorem bareLexemes_eq_of_tokens {ls ms : List Lexeme}
    (h : ls.map Lexeme.token = ms.map Lexeme.token) : bareLexemes ls = bareLexemes ms := by
  have hbare (ls : List Lexeme) : bareLexemes ls =
      ((ls.map Lexeme.token).filter (!·.isBlank)).map fun t => ⟨t, [], true⟩ := by
    rw [List.filter_map, List.map_map]
    rfl
  rw [hbare, hbare, h]

theorem bareLexemes_append (ls ms : List Lexeme) :
    bareLexemes (ls ++ ms) = bareLexemes ls ++ bareLexemes ms := by
  simp [bareLexemes]

theorem bareLexemes_of_blanks {ls : List Lexeme} (h : ∀ l ∈ ls, l.token.isBlank = true) :
    bareLexemes ls = [] := by
  simpa [bareLexemes] using h

@[simp] theorem isBlank_bare (v : ComponentValue) : v.bare.isBlank = v.isBlank := by
  cases v <;> rfl

@[simp] theorem bare_bare (v : ComponentValue) : v.bare.bare = v.bare := by
  cases v <;> rfl

@[simp] theorem isToken_bare (t : Token) (v : ComponentValue) : v.bare.isToken t = v.isToken t := by
  cases v <;> rfl

theorem bareValues_cons_blank {v : ComponentValue} (h : v.isBlank = true)
    (vs : List ComponentValue) : bareValues (v :: vs) = bareValues vs := by
  simp [bareValues, h]

theorem bareValues_cons {v : ComponentValue} (h : v.isBlank = false) (vs : List ComponentValue) :
    bareValues (v :: vs) = v.bare :: bareValues vs := by
  simp [bareValues, h]

theorem bareValues_bareValues (vs : List ComponentValue) :
    bareValues (bareValues vs) = bareValues vs := by
  simp [bareValues, List.filter_map, Function.comp_def]

theorem bareValues_reverse (vs : List ComponentValue) :
    bareValues vs.reverse = (bareValues vs).reverse := by
  simp [bareValues]

/-- The open blocks, and bare values before them. -/
def Nesting.bareFrames (outer : List (Lexeme × List ComponentValue)) :
    List (Lexeme × List ComponentValue) :=
  outer.map fun (o, before) => (o.bare, bareValues before)

/-- The nesting of bare values. -/
def Nesting.bare (n : Nesting) : Nesting :=
  ⟨bareValues n.current, bareFrames n.open_⟩

theorem Nesting.bareFrames_bareFrames (outer : List (Lexeme × List ComponentValue)) :
    bareFrames (bareFrames outer) = bareFrames outer := by
  simp [bareFrames, bareValues_bareValues, Function.comp_def, Lexeme.bare]

theorem Nesting.bare_read_blank {n : Nesting} {l : Lexeme} (h : l.token.isBlank = true) :
    (read n l).bare = n.bare := by
  have hopens : l.token.closer? = none := by
    cases htoken : l.token <;> simp_all [Token.isBlank, Token.closer?]
  have hsound : l.token.isError = false := by
    cases htoken : l.token <;> simp_all [Token.isBlank, Token.isError]
  rw [read_plain hopens hsound]
  exact congrArg (Nesting.mk · _) (bareValues_cons_blank (v := .token l) h _)

/-- What a lexeme does shows on the bare values. -/
theorem Nesting.bare_read {n : Nesting} {l : Lexeme} (h : l.token.isBlank = false) :
    (read n l).bare = (read n.bare l.bare).bare := by
  obtain ⟨current, outer⟩ := n
  rcases read_cases current outer l with
    ⟨o, before, around, rfl, hclose, hread⟩ | ⟨hopen, hread⟩ | ⟨hopens, hcloses, hread⟩
  · have hbare : read (bare ⟨current, (o, before) :: around⟩) l.bare =
        ⟨.block o.bare (bareValues current).reverse (some l.bare) :: bareValues before,
          bareFrames around⟩ := read_close hclose
    rw [hread, hbare, bare, bare, bareValues_cons rfl, bareValues_cons rfl, bareValues_bareValues,
      bareFrames_bareFrames]
    rfl
  · have hbare : read (bare ⟨current, outer⟩) l.bare =
        ⟨[], (l.bare, bareValues current) :: bareFrames outer⟩ := read_open hopen
    rw [hread, hbare]
    refine congrArg (Nesting.mk []) (congrArg₂ List.cons ?_ (bareFrames_bareFrames outer).symm)
    exact congrArg (Prod.mk l.bare) (bareValues_bareValues current).symm
  · have hbare : read (bare ⟨current, outer⟩) l.bare =
        ⟨.token l.bare :: bareValues current, bareFrames outer⟩ := by
      refine read_value hopens ?_
      cases outer with
      | nil => exact nofun
      | cons frame outer => exact fun heq => hcloses _ _ _ rfl heq.symm
    have hblank : (ComponentValue.token l).isBlank = false := h
    have hblank' : (ComponentValue.token l.bare).isBlank = false := h
    rw [hread, hbare, bare, bare, bareValues_cons hblank, bareValues_cons hblank',
      bareValues_bareValues, bareFrames_bareFrames]
    rfl

theorem Nesting.bare_foldl_read (ls : List Lexeme) {n m : Nesting} (h : n.bare = m.bare) :
    (ls.foldl read n).bare = ((bareLexemes ls).foldl read m).bare := by
  induction ls generalizing n m with
  | nil => exact h
  | cons l ls ih =>
    by_cases hl : l.token.isBlank = true
    · have hbare : bareLexemes (l :: ls) = bareLexemes ls := by
        simp [bareLexemes, hl]
      rw [List.foldl_cons, hbare]
      exact ih ((bare_read_blank hl).trans h)
    · have hl : l.token.isBlank = false := by simpa using hl
      have hbare : bareLexemes (l :: ls) = l.bare :: bareLexemes ls := by
        simp [bareLexemes, hl]
      rw [List.foldl_cons, hbare, List.foldl_cons]
      refine ih ?_
      have hm : (read m l.bare).bare = (read m.bare l.bare.bare).bare := bare_read hl
      rw [bare_read hl, h, hm]
      rfl

/-- Values of lexemes that differ in blanks and spelling differ in blanks and spelling. -/
theorem bareValues_nest {ls ms : List Lexeme} (hls : AreClosed ls)
    (h : bareLexemes ls = bareLexemes ms) :
    AreClosed ms ∧ bareValues (nest ls) = bareValues (nest ms) := by
  have hread : (ls.foldl Nesting.read {}).bare = (ms.foldl Nesting.read {}).bare := by
    rw [Nesting.bare_foldl_read ls rfl, h, ← Nesting.bare_foldl_read ms rfl]
  have hframes := congrArg Nesting.open_ hread
  have hcurrent := congrArg Nesting.current hread
  have hms : AreClosed ms := by
    simp only [Nesting.bare] at hframes
    rw [AreClosed] at hls ⊢
    rw [hls] at hframes
    exact List.map_eq_nil_iff.mp hframes.symm
  refine ⟨hms, ?_⟩
  rw [AreClosed] at hls hms
  rw [nest, nest, hls, hms, Nesting.finish, Nesting.finish, bareValues_reverse, bareValues_reverse]
  exact congrArg List.reverse hcurrent

end StyleTree.Css
