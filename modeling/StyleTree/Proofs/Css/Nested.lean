import StyleTree.Proofs.Css.Blocks
import StyleTree.Proofs.Css.Joined

/-!
# Values one after another

The values of a text hold its lexemes in their order. Where every block is closed, the values of
what comes next stand beside them: nothing that has been read is read again, and nothing reaches
over the end.
-/

namespace StyleTree.Css

/-! ## Values and their lexemes -/

theorem flatten_append (vs us : List ComponentValue) :
    flatten (vs ++ us) = flatten vs ++ flatten us := by
  induction vs with
  | nil => rfl
  | cons v vs ih => rw [List.cons_append, flatten, flatten, ih, List.append_assoc]

mutual

theorem ComponentValue.text_eq_flatMap : ∀ v : ComponentValue,
    v.text = v.flat.flatMap Lexeme.text
  | .token l => by simp [ComponentValue.text, ComponentValue.flat]
  | .block o body close => by
    rw [ComponentValue.text, ComponentValue.flat, List.flatMap_append, List.flatMap_cons,
      textOf_eq_flatMap body]
    cases close <;> simp

theorem textOf_eq_flatMap : ∀ vs : List ComponentValue,
    textOf vs = (flatten vs).flatMap Lexeme.text
  | [] => rfl
  | v :: vs => by
    rw [textOf, flatten, List.flatMap_append, v.text_eq_flatMap, textOf_eq_flatMap vs]

end

/-- The lexemes read so far: `current` is what the innermost open block holds. -/
def Nesting.flat (current : List ComponentValue) :
    List (Lexeme × List ComponentValue) → List Lexeme
  | [] => flatten current.reverse
  | (o, before) :: outer => Nesting.flat before outer ++ o :: flatten current.reverse

theorem Nesting.flat_cons (v : ComponentValue) (current : List ComponentValue)
    (outer : List (Lexeme × List ComponentValue)) :
    flat (v :: current) outer = flat current outer ++ v.flat := by
  have hflatten : flatten (v :: current).reverse = flatten current.reverse ++ v.flat := by
    rw [List.reverse_cons, flatten_append, flatten, flatten, List.append_nil]
  cases outer with
  | nil => exact hflatten
  | cons frame outer => rw [flat, hflatten, flat, List.append_assoc, List.cons_append]

theorem Nesting.flat_read (current : List ComponentValue)
    (outer : List (Lexeme × List ComponentValue)) (l : Lexeme) :
    flat (read ⟨current, outer⟩ l).current (read ⟨current, outer⟩ l).open_ =
      flat current outer ++ [l] := by
  rcases read_cases current outer l with
    ⟨o, before, around, rfl, -, hread⟩ | ⟨-, hread⟩ | ⟨-, -, hread⟩
  · rw [hread, flat_cons, ComponentValue.flat, flat]
    simp
  · rw [hread, flat]
    rfl
  · rw [hread, flat_cons, ComponentValue.flat]

theorem Nesting.flat_foldl_read (ls : List Lexeme) (n : Nesting) :
    flat (ls.foldl read n).current (ls.foldl read n).open_ = flat n.current n.open_ ++ ls := by
  induction ls generalizing n with
  | nil => exact (List.append_nil _).symm
  | cons l ls ih => rw [List.foldl_cons, ih, flat_read, List.append_assoc, List.singleton_append]

theorem Nesting.flatten_finish (current : List ComponentValue)
    (outer : List (Lexeme × List ComponentValue)) :
    flatten (finish current outer) = flat current outer := by
  induction outer generalizing current with
  | nil => rfl
  | cons frame outer ih =>
    obtain ⟨o, before⟩ := frame
    rw [finish, ih, flat_cons, ComponentValue.flat, flat]
    simp

/-- No lexeme is lost, and none changes its place. -/
theorem flatten_nest (ls : List Lexeme) : flatten (nest ls) = ls := by
  rw [nest, Nesting.flatten_finish, Nesting.flat_foldl_read]
  rfl

theorem flatten_values (s : String) : flatten (values s) = lexemes s.toList :=
  flatten_nest _

/-! ## Values beside values -/

/-- The nesting with the values `base` before everything, which are in reverse. -/
def Nesting.upon (base : List ComponentValue) (current : List ComponentValue) :
    List (Lexeme × List ComponentValue) → Nesting
  | [] => ⟨current ++ base, []⟩
  | (o, before) :: outer =>
    ⟨current, (o, (upon base before outer).current) :: (upon base before outer).open_⟩

theorem Nesting.upon_cons (base : List ComponentValue) (v : ComponentValue)
    (current : List ComponentValue) (outer : List (Lexeme × List ComponentValue)) :
    upon base (v :: current) outer =
      ⟨v :: (upon base current outer).current, (upon base current outer).open_⟩ := by
  cases outer <;> rfl

theorem Nesting.read_upon (base current : List ComponentValue)
    (outer : List (Lexeme × List ComponentValue)) (l : Lexeme) :
    read (upon base current outer) l =
      upon base (read ⟨current, outer⟩ l).current (read ⟨current, outer⟩ l).open_ := by
  cases outer with
  | nil =>
    simp only [upon, read]
    split <;> rfl
  | cons frame outer =>
    obtain ⟨o, before⟩ := frame
    simp only [upon, read]
    split
    · rw [upon_cons]
    split <;> rfl

theorem Nesting.foldl_read_upon (base : List ComponentValue) (ls : List Lexeme) (n : Nesting) :
    ls.foldl read (upon base n.current n.open_) =
      upon base (ls.foldl read n).current (ls.foldl read n).open_ := by
  induction ls generalizing n with
  | nil => rfl
  | cons l ls ih => rw [List.foldl_cons, List.foldl_cons, read_upon, ih]

theorem Nesting.finish_upon (base current : List ComponentValue)
    (outer : List (Lexeme × List ComponentValue)) :
    finish (upon base current outer).current (upon base current outer).open_ =
      base.reverse ++ finish current outer := by
  induction outer generalizing current with
  | nil => simp [upon, finish]
  | cons frame outer ih =>
    obtain ⟨o, before⟩ := frame
    have hupon := upon_cons base (.block o current.reverse none) before outer
    have hfinish := ih (.block o current.reverse none :: before)
    rw [hupon] at hfinish
    exact hfinish

/-- Every block that the lexemes open is closed among them. -/
def AreClosed (ls : List Lexeme) : Prop :=
  (ls.foldl Nesting.read {}).open_ = []

theorem nest_append {ls : List Lexeme} (h : AreClosed ls) (ms : List Lexeme) :
    nest (ls ++ ms) = nest ls ++ nest ms := by
  obtain ⟨base, hls⟩ : ∃ base, ls.foldl Nesting.read {} = ⟨base, []⟩ :=
    ⟨_, congrArg (Nesting.mk (ls.foldl Nesting.read {}).current) h⟩
  have hms := Nesting.foldl_read_upon base ms {}
  simp only [nest, List.foldl_append, hls]
  rw [Nesting.finish, ← Nesting.finish_upon, ← hms]
  rfl

theorem nest_cons_plain {l : Lexeme} (h : l.token.closer? = none) (ls : List Lexeme) :
    nest (l :: ls) = .token l :: nest ls := by
  have hclosed : AreClosed [l] := by
    simp [AreClosed, Nesting.read, h]
  rw [← List.singleton_append, nest_append hclosed]
  simp [nest, Nesting.read, Nesting.finish, h]

/-! ## Closed values -/

theorem allClosed_iff {closer : Option Token} {vs : List ComponentValue} :
    AllClosed closer vs ↔ ∀ v ∈ vs, v.IsClosed closer := by
  induction vs with
  | nil => simp [AllClosed]
  | cons v vs ih => rw [AllClosed, ih, List.forall_mem_cons]

theorem areClosed_flatten {vs : List ComponentValue} (h : AllClosed none vs) :
    AreClosed (flatten vs) := by
  rw [AreClosed, foldl_read_of_allClosed vs [] [] h]

/-- What the open blocks hold, and the values before them. -/
def Nesting.AllClosed (current : List ComponentValue) :
    List (Lexeme × List ComponentValue) → Prop
  | [] => Css.AllClosed none current
  | (o, before) :: outer =>
    o.token.closer?.isSome = true ∧ Css.AllClosed o.token.closer? current ∧
      Nesting.AllClosed before outer

theorem Nesting.AllClosed.cons {v : ComponentValue} {current : List ComponentValue}
    {outer : List (Lexeme × List ComponentValue)} (hv : v.IsClosed (closer? outer))
    (h : Nesting.AllClosed current outer) : Nesting.AllClosed (v :: current) outer := by
  cases outer with
  | nil => exact ⟨hv, h⟩
  | cons frame outer => exact ⟨h.1, ⟨hv, h.2.1⟩, h.2.2⟩

theorem Nesting.AllClosed.read {current : List ComponentValue}
    {outer : List (Lexeme × List ComponentValue)} (h : Nesting.AllClosed current outer)
    (l : Lexeme) :
    Nesting.AllClosed (read ⟨current, outer⟩ l).current (read ⟨current, outer⟩ l).open_ := by
  rcases read_cases current outer l with
    ⟨o, before, around, rfl, hclose, hread⟩ | ⟨hopen, hread⟩ | ⟨hopens, hcloses, hread⟩
  · rw [hread]
    have hbody : Css.AllClosed (some l.token) current.reverse := by
      have hcurrent := allClosed_iff.mp h.2.1
      rw [allClosed_iff]
      simpa [hclose] using hcurrent
    exact h.2.2.cons ⟨l, rfl, hclose, hbody⟩
  · rw [hread]
    exact ⟨hopen, trivial, h⟩
  · rw [hread]
    refine h.cons ⟨hopens, ?_⟩
    cases outer with
    | nil => exact nofun
    | cons frame outer => exact fun heq => hcloses _ _ _ rfl heq.symm

theorem Nesting.AllClosed.foldl {n : Nesting} (h : Nesting.AllClosed n.current n.open_)
    (ls : List Lexeme) :
    Nesting.AllClosed (ls.foldl Nesting.read n).current (ls.foldl Nesting.read n).open_ := by
  induction ls generalizing n with
  | nil => exact h
  | cons l ls ih => exact ih (h.read l)

theorem allClosed_nest {ls : List Lexeme} (h : AreClosed ls) : AllClosed none (nest ls) := by
  have hnest := Nesting.AllClosed.foldl (n := {}) trivial ls
  rw [AreClosed] at h
  rw [h] at hnest
  rw [nest, h, Nesting.finish, allClosed_iff]
  simpa using allClosed_iff.mp hnest

/-- Values that are closed by themselves stand in a block if none of their tokens closes it. -/
theorem AllClosed.within {vs : List ComponentValue} {t : Token} (h : AllClosed none vs)
    (hnone : ∀ v ∈ vs, v.isToken t = false) : AllClosed (some t) vs := by
  rw [allClosed_iff] at h ⊢
  intro v hv
  have hclosed := h v hv
  cases v with
  | token l =>
    refine ⟨hclosed.1, fun heq => ?_⟩
    have hne := hnone _ hv
    simp [ComponentValue.isToken, Option.some.inj heq] at hne
  | block => exact hclosed

/-- The block that a text makes between what opens it and what closes it. -/
theorem nest_block {o c : Lexeme} (hclose : o.token.closer? = some c.token)
    {ls : List Lexeme} (hls : AreClosed ls) (hnone : ∀ v ∈ nest ls, v.isToken c.token = false) :
    nest (o :: (ls ++ [c])) = [.block o (nest ls) (some c)] := by
  have hbody : AllClosed (Nesting.closer? [(o, [])]) (nest ls) := by
    rw [Nesting.closer?, hclose]
    exact (allClosed_nest hls).within hnone
  have hread := foldl_read_of_allClosed (nest ls) [] [(o, [])] hbody
  rw [flatten_nest] at hread
  rw [nest, List.foldl_cons, Nesting.read_open (by simp [hclose]), List.foldl_append, hread]
  simp [Nesting.read_close hclose, Nesting.finish]

/-! ## Closed texts -/

/-- The text ends outside every block, string, comment, URL and escape. -/
structure IsClosed (s : String) : Prop where
  whole : IsWhole s.toList
  blocks : AreClosed (lexemes s.toList)

instance (s : String) : Decidable (IsClosed s) :=
  decidable_of_iff
    (IsWhole s.toList ∧ ((lexemes s.toList).foldl Nesting.read {}).open_.isEmpty = true)
    ⟨fun h => ⟨h.1, List.isEmpty_iff.mp h.2⟩, fun h => ⟨h.1, List.isEmpty_iff.mpr h.2⟩⟩

/-- The values of a text that goes on with a character that ends tokens. -/
theorem nest_lexemes_append {s : String} (h : IsClosed s) {rest : List Char}
    (hends : endsTokens rest = true) (hstop : startsStop rest = true) :
    nest (lexemes (s.toList ++ rest)) = values s ++ nest (lexemes rest) := by
  rw [lexemes_append h.whole hends hstop, nest_append h.blocks, values]

end StyleTree.Css
