import Mathlib.Data.List.DropRight
import StyleTree.Text.Blank

/-!
# Trimming

What is between the first and the last element of a list that count.
-/

namespace StyleTree

variable {α : Type} {p : α → Bool} {xs ys : List α}

/-- The elements between the first and the last that do not satisfy `p`. -/
def trimWhile (p : α → Bool) (xs : List α) : List α :=
  (xs.dropWhile p).rdropWhile p

theorem trimBlank_eq_trimWhile (s : List Char) : trimBlank s = trimWhile isBlank s :=
  rfl

theorem trimWhile_eq_nil_iff : trimWhile p xs = [] ↔ ∀ x ∈ xs, p x = true := by
  rw [trimWhile, List.rdropWhile_eq_nil_iff]
  refine ⟨fun h x hx => ?_, fun h x hx => h x ((List.dropWhile_sublist p).subset hx)⟩
  rw [← List.takeWhile_append_dropWhile (p := p) (l := xs), List.mem_append] at hx
  exact hx.elim List.mem_takeWhile_imp (h x)

theorem trimWhile_append_left (h : ∀ x ∈ xs, p x = true) :
    trimWhile p (xs ++ ys) = trimWhile p ys := by
  rw [trimWhile, List.dropWhile_append_of_pos h, trimWhile]

theorem trimWhile_append_right (h : ∀ y ∈ ys, p y = true) :
    trimWhile p (xs ++ ys) = trimWhile p xs := by
  have hdrop (zs : List α) : (zs ++ ys).rdropWhile p = zs.rdropWhile p := by
    rw [List.rdropWhile, List.reverse_append, List.dropWhile_append_of_pos (by simpa using h),
      List.rdropWhile]
  rw [trimWhile, trimWhile, List.dropWhile_append]
  split
  next hnil =>
    rw [List.isEmpty_iff.mp hnil, List.rdropWhile_nil, List.rdropWhile_eq_nil_iff]
    exact fun y hy => h y ((List.dropWhile_sublist p).subset hy)
  next => exact hdrop _

/-- What is trimmed does not start with an element that is cut. -/
theorem not_of_trimWhile_eq_cons {x : α} (h : trimWhile p xs = x :: ys) : p x = false := by
  have hprefix : x :: ys <+: xs.dropWhile p := h ▸ List.rdropWhile_prefix p _
  obtain ⟨rest, hrest⟩ := hprefix
  have hhead := List.head?_dropWhile_not p xs
  rw [← hrest] at hhead
  simpa using hhead

theorem not_of_head?_trimWhile {x : α} (h : (trimWhile p xs).head? = some x) : p x = false := by
  obtain ⟨ys, hys⟩ := List.head?_eq_some_iff.mp h
  exact not_of_trimWhile_eq_cons hys

theorem not_of_getLast?_trimWhile {x : α} (h : (trimWhile p xs).getLast? = some x) :
    p x = false := by
  obtain ⟨hne, rfl⟩ := List.mem_getLast?_eq_getLast h
  exact Bool.eq_false_iff.mpr (List.rdropWhile_last_not p (xs.dropWhile p) hne)

theorem trim_eq_empty_iff {s : String} : trim s = "" ↔ ∀ c ∈ s.toList, isBlank c = true := by
  rw [trim, String.ofList_eq_empty_iff, trimBlank_eq_trimWhile, trimWhile_eq_nil_iff]

end StyleTree
