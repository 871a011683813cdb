import StyleTree.Text.Split

/-!
# Pieces

What the pieces of a list between its separators hold, and what is before the first of these.
-/

namespace StyleTree

variable {α : Type} {p : α → Bool}

theorem pieces_eq_splitOnP (p : α → Bool) (xs : List α) : pieces p xs = xs.splitOnP p := by
  induction xs with
  | nil => rfl
  | cons x xs ih =>
    rw [pieces, List.splitOnP_cons_eq_if_modifyHead, ih]
    split
    · rfl
    · cases h : xs.splitOnP p with
      | nil => exact absurd h (List.splitOnP_ne_nil p xs)
      | cons w ws => rfl

theorem pieces_ne_nil (p : α → Bool) (xs : List α) : pieces p xs ≠ [] := by
  rw [pieces_eq_splitOnP]
  exact List.splitOnP_ne_nil p xs

/-- A separator parts the pieces before it from those behind it. -/
theorem pieces_append_cons {x : α} (hx : p x = true) (xs ys : List α) :
    pieces p (xs ++ x :: ys) = pieces p xs ++ pieces p ys := by
  simp only [pieces_eq_splitOnP]
  exact List.splitOnP_append_cons xs ys hx

theorem pieces_cons_of_pos {x : α} (hx : p x = true) (xs : List α) :
    pieces p (x :: xs) = [] :: pieces p xs := by
  rw [pieces, if_pos hx]

theorem pieces_cons_of_neg {x : α} (hx : p x = false) (xs : List α) :
    pieces p (x :: xs) = (pieces p xs).modifyHead (x :: ·) := by
  rw [pieces, hx]
  cases h : pieces p xs with
  | nil => exact absurd h (pieces_ne_nil p xs)
  | cons w ws => rfl

theorem pieces_of_forall {xs : List α} (h : ∀ x ∈ xs, p x = false) : pieces p xs = [xs] := by
  rw [pieces_eq_splitOnP]
  exact List.splitOnP_eq_singleton h

/-- Induction on a list and its pieces: a separator starts a new first piece, and any other element
goes in front of the one there is. -/
@[elab_as_elim]
theorem pieces_induction (p : α → Bool) {motive : List α → Prop} (nil : motive [])
    (separator : ∀ x xs, p x = true → pieces p (x :: xs) = [] :: pieces p xs → motive xs →
      motive (x :: xs))
    (other : ∀ x xs w ws, p x = false → pieces p xs = w :: ws →
      pieces p (x :: xs) = (x :: w) :: ws → motive xs → motive (x :: xs))
    (xs : List α) : motive xs := by
  induction xs with
  | nil => exact nil
  | cons x xs ih =>
    cases hx : p x with
    | true => exact separator x xs hx (pieces_cons_of_pos hx xs) ih
    | false =>
      obtain ⟨w, ws, hrest⟩ := List.exists_cons_of_ne_nil (pieces_ne_nil p xs)
      refine other x xs w ws hx hrest ?_ ih
      rw [pieces_cons_of_neg hx, hrest, List.modifyHead_cons]

/-- There is one piece more than there are separators. -/
theorem length_pieces (p : α → Bool) (xs : List α) : (pieces p xs).length = xs.countP p + 1 := by
  induction xs using pieces_induction p with
  | nil => rfl
  | separator x xs hx hpieces ih =>
    rw [hpieces, List.length_cons, ih, List.countP_cons_of_pos hx]
  | other x xs w ws hx hrest hpieces ih =>
    rw [hpieces, List.countP_cons_of_neg (by simp [hx]), ← ih, hrest]
    rfl

theorem exists_append_of_pieces_eq_cons {xs piece : List α} {others : List (List α)}
    (h : pieces p xs = piece :: others) :
    ∃ after, xs = piece ++ after ∧ ∀ x rest, after = x :: rest → p x = true := by
  induction xs using pieces_induction p generalizing piece others with
  | nil =>
    obtain ⟨rfl, -⟩ := List.cons.inj h
    exact ⟨[], rfl, nofun⟩
  | separator y ys hy hpieces ih =>
    obtain ⟨rfl, -⟩ := List.cons.inj (hpieces.symm.trans h)
    refine ⟨y :: ys, rfl, ?_⟩
    rintro _ _ ⟨⟩
    exact hy
  | other y ys w ws hy hrest hpieces ih =>
    obtain ⟨rfl, -⟩ := List.cons.inj (hpieces.symm.trans h)
    obtain ⟨after, hys, hafter⟩ := ih hrest
    exact ⟨after, congrArg _ hys, hafter⟩

/-- A piece stands in the list, and a separator behind it if anything does. -/
theorem exists_append_of_mem_pieces {xs piece : List α} (h : piece ∈ pieces p xs) :
    ∃ before after, xs = before ++ (piece ++ after) ∧ ∀ x rest, after = x :: rest → p x = true := by
  -- The first piece is in front; a later one is among the pieces of what is behind the head.
  have hfirst {xs : List α} {others : List (List α)} (h : pieces p xs = piece :: others) :
      ∃ before after, xs = before ++ (piece ++ after) ∧
        ∀ x rest, after = x :: rest → p x = true :=
    ⟨[], exists_append_of_pieces_eq_cons h⟩
  induction xs using pieces_induction p with
  | nil =>
    obtain rfl := List.mem_singleton.mp h
    exact hfirst rfl
  | separator y ys hy hpieces ih =>
    rcases List.mem_cons.mp (hpieces ▸ h) with rfl | h
    · exact hfirst hpieces
    · obtain ⟨before, after, hys, hafter⟩ := ih h
      exact ⟨y :: before, after, congrArg _ hys, hafter⟩
  | other y ys w ws hy hrest hpieces ih =>
    rcases List.mem_cons.mp (hpieces ▸ h) with rfl | h
    · exact hfirst hpieces
    · obtain ⟨before, after, hys, hafter⟩ := ih (hrest ▸ List.mem_cons_of_mem w h)
      exact ⟨y :: before, after, congrArg _ hys, hafter⟩

theorem mem_of_mem_pieces {xs piece : List α} {x : α} (hpiece : piece ∈ pieces p xs)
    (hx : x ∈ piece) : x ∈ xs := by
  obtain ⟨before, after, rfl, -⟩ := exists_append_of_mem_pieces hpiece
  exact List.mem_append_right before (List.mem_append_left after hx)

/-- No piece holds a separator. -/
theorem not_of_mem_pieces {xs piece : List α} {x : α} (hpiece : piece ∈ pieces p xs)
    (hx : x ∈ piece) : p x = false := by
  induction xs using pieces_induction p generalizing piece with
  | nil =>
    obtain rfl := List.mem_singleton.mp hpiece
    cases hx
  | separator y ys hy hpieces ih =>
    rcases List.mem_cons.mp (hpieces ▸ hpiece) with rfl | hpiece
    · cases hx
    · exact ih hpiece hx
  | other y ys w ws hy hrest hpieces ih =>
    rw [hrest] at ih
    rcases List.mem_cons.mp (hpieces ▸ hpiece) with rfl | hpiece
    · rcases List.mem_cons.mp hx with rfl | hx
      · exact hy
      · exact ih List.mem_cons_self hx
    · exact ih (List.mem_cons_of_mem w hpiece) hx

/-! ## The first separator -/

/-- What is before the first separator holds none. -/
theorem cutAt?_eq_some {xs l r : List α} (h : cutAt? p xs = some (l, r)) :
    ∃ x, xs = l ++ x :: r ∧ p x = true ∧ ∀ y ∈ l, p y = false := by
  induction xs generalizing l with
  | nil => cases h
  | cons y ys ih =>
    rw [cutAt?] at h
    split at h
    next hy =>
      cases h
      exact ⟨y, rfl, hy, nofun⟩
    next hy =>
      obtain ⟨⟨l', r'⟩, hrest, he⟩ := Option.map_eq_some_iff.mp h
      cases he
      obtain ⟨x, rfl, hx, hall⟩ := ih hrest
      refine ⟨x, rfl, hx, ?_⟩
      rintro z hz
      rcases List.mem_cons.mp hz with rfl | hz
      · simpa using hy
      · exact hall z hz

theorem cutAt?_append {l : List α} {x : α} (hl : ∀ y ∈ l, p y = false)
    (hx : p x = true) (r : List α) : cutAt? p (l ++ x :: r) = some (l, r) := by
  induction l with
  | nil => rw [List.nil_append, cutAt?, if_pos hx]
  | cons y l ih =>
    rw [List.cons_append, cutAt?, if_neg (by simp [hl y List.mem_cons_self]),
      ih fun z hz => hl z (List.mem_cons_of_mem y hz)]
    rfl

end StyleTree
