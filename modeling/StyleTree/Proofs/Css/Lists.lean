import StyleTree.Proofs.Css.Blocks
import StyleTree.Proofs.Css.Proper
import StyleTree.Proofs.Text.Split

/-!
# Values between commas

A list is cut at its commas. Cut again, a list that was written with a comma and a space between its
entries gives the entries, all but the first with the space before them.
-/

namespace StyleTree

namespace Css

theorem AllProper.of_mem_pieces {p : ComponentValue → Bool} {vs piece : List ComponentValue}
    (hvs : AllProper vs) (h : piece ∈ pieces p vs) : AllProper piece :=
  fun v hv => hvs v (mem_of_mem_pieces h hv)

/-! ## Lists that are written -/

open ComponentValue

/-- The entries with a comma and a space between them. -/
def withCommas (entries : List (List ComponentValue)) : List ComponentValue :=
  [comma, space].intercalate entries

theorem withCommas_cons_cons (vs us : List ComponentValue) (rest : List (List ComponentValue)) :
    withCommas (vs :: us :: rest) = vs ++ comma :: ([space] ++ withCommas (us :: rest)) := by
  rw [withCommas, List.intercalate_cons_cons, withCommas, List.append_assoc]
  rfl

theorem subset_withCommas {entries : List (List ComponentValue)} {vs : List ComponentValue}
    (h : vs ∈ entries) : vs ⊆ withCommas entries := by
  induction entries with
  | nil => cases h
  | cons us rest ih =>
    cases rest with
    | nil =>
      obtain rfl := List.mem_singleton.mp h
      rw [withCommas, List.intercalate_singleton]
      exact List.Subset.refl _
    | cons ws rest =>
      rw [withCommas_cons_cons]
      intro v hv
      rcases List.mem_cons.mp h with rfl | h
      · exact List.mem_append_left _ hv
      · have hmem := ih h hv
        simp [hmem]

/-- The text goes on in none of the ways in which an entry could. -/
def endsEntry (rest : List Char) : Bool :=
  rest.head?.all fun c => c == ',' || c == ')'

theorem endsIdent_of_endsEntry {rest : List Char} (h : endsEntry rest = true) :
    endsIdent rest = true := by
  cases rest with
  | nil => rfl
  | cons c rest =>
    have hc : c = ',' ∨ c = ')' := by simpa [endsEntry] using h
    rcases hc with rfl | rfl <;> rfl

theorem head_of_cons {cs : List Char} (h : ∃ c r, cs = c :: r ∧ isSpace c = false) :
    cs.head?.all (!isSpace ·) = true := by
  obtain ⟨c, r, rfl, hc⟩ := h
  simp [hc]

theorem head_append_endsEntry {cs rest : List Char} (hcs : cs.head?.all (!isSpace ·) = true)
    (hrest : endsEntry rest = true) : (cs ++ rest).head?.all (!isSpace ·) = true := by
  cases cs with
  | cons c cs => exact hcs
  | nil =>
    cases rest with
    | nil => rfl
    | cons c rest =>
      have hc : c = ',' ∨ c = ')' := by simpa [endsEntry] using hrest
      rcases hc with rfl | rfl <;> rfl

/-- A list is spelled if its entries are, and none of them starts with white space. An entry may be
empty. -/
theorem spells_withCommas {α : Type} {values : α → List ComponentValue} {text : α → List Char}
    {xs : List α}
    (hspells : ∀ x ∈ xs, Spells (values x) (text x) fun rest => endsEntry rest = true)
    (hstart : ∀ x ∈ xs, (text x).head?.all (!isSpace ·) = true) :
    Spells (withCommas (xs.map values)) ([',', ' '].intercalate (xs.map text)) fun rest =>
      endsEntry rest = true := by
  induction xs with
  | nil => exact .nil
  | cons x xs ih =>
    have hfirst := hspells x List.mem_cons_self
    cases xs with
    | nil => simpa [withCommas] using hfirst
    | cons y ys =>
      have ih := ih (fun x hx => hspells x (List.mem_cons_of_mem _ hx))
        (fun x hx => hstart x (List.mem_cons_of_mem _ hx))
      have hy := hstart y (List.mem_cons_of_mem _ List.mem_cons_self)
      have hspace := spells_space.append ih fun rest hrest => by
        cases ys with
        | nil =>
          rw [List.map_singleton, List.intercalate_singleton]
          exact head_append_endsEntry hy hrest
        | cons z zs =>
          rw [List.map_cons, List.map_cons, List.intercalate_cons_cons, List.append_assoc,
            List.append_assoc]
          exact head_append_endsEntry hy rfl
      have hlist := hfirst.append hspace.comma fun _ _ => rfl
      rw [List.map_cons, List.map_cons, List.map_cons, List.map_cons, withCommas_cons_cons,
        List.intercalate_cons_cons, List.append_assoc]
      exact hlist

/-- Cut at its commas, a list is read entry by entry. -/
theorem mapM_withCommas {α β : Type} {f : List ComponentValue → Option β}
    {values : α → List ComponentValue} {g : α → Option β} {xs : List α} {lead : List ComponentValue}
    (hxs : xs ≠ []) (hlead : lead = [] ∨ lead = [space])
    (hcomma : ∀ x ∈ xs, ∀ v ∈ values x, v.isToken .comma = false)
    (hf : ∀ x ∈ xs, ∀ lead, lead = [] ∨ lead = [space] → f (lead ++ values x) = g x) :
    (pieces (·.isToken .comma) (lead ++ withCommas (xs.map values))).mapM f = xs.mapM g := by
  induction xs generalizing lead with
  | nil => exact absurd rfl hxs
  | cons x xs ih =>
    have hfirst : ∀ v ∈ lead ++ values x, v.isToken .comma = false := by
      intro v hv
      rcases List.mem_append.mp hv with hv | hv
      · rcases hlead with rfl | rfl
        · cases hv
        · obtain rfl := List.mem_singleton.mp hv
          rfl
      · exact hcomma x List.mem_cons_self v hv
    have hread := hf x List.mem_cons_self lead hlead
    cases xs with
    | nil =>
      rw [List.map_singleton, withCommas, List.intercalate_singleton, pieces_of_forall hfirst]
      rw [List.mapM_cons, hread, List.mapM_cons]
      rfl
    | cons y ys =>
      have ih := ih (List.cons_ne_nil _ _) (.inr rfl)
        (fun x hx => hcomma x (List.mem_cons_of_mem _ hx))
        (fun x hx => hf x (List.mem_cons_of_mem _ hx))
      rw [List.map_cons, List.map_cons, withCommas_cons_cons, ← List.append_assoc,
        pieces_append_cons rfl, pieces_of_forall hfirst, List.singleton_append, List.mapM_cons,
        List.mapM_cons, hread, ← List.map_cons, ih]

/-- Cut at its commas, a list of entries that can all be read gives what they give. -/
theorem mapM_pieces_withCommas {α β : Type} {f : List ComponentValue → Option β}
    {values : α → List ComponentValue} {g : α → β} {xs : List α} {lead : List ComponentValue}
    (hxs : xs ≠ []) (hlead : lead = [] ∨ lead = [space])
    (hcomma : ∀ x ∈ xs, ∀ v ∈ values x, v.isToken .comma = false)
    (hf : ∀ x ∈ xs, ∀ lead, lead = [] ∨ lead = [space] → f (lead ++ values x) = some (g x)) :
    (pieces (·.isToken .comma) (lead ++ withCommas (xs.map values))).mapM f =
      some (xs.map g) :=
  (mapM_withCommas hxs hlead hcomma hf).trans List.mapM_pure

end Css

end StyleTree
