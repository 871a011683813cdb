import StyleTree.Text.Ascii

/-!
# Lower case

Only the letters from `A` to `Z` are changed by putting a text in lower case. So it is not changed
again, compares as before and keeps its white space.
-/

namespace StyleTree.Ascii

/-! ## Characters -/

theorem isUpper_iff {c : Char} : c.isUpper = true ↔ 65 ≤ c.toNat ∧ c.toNat ≤ 90 :=
  decide_eq_true_iff

/-- An upper-case letter goes 32 characters up, and any other character stays. -/
theorem toLower_cases (c : Char) :
    65 ≤ c.toNat ∧ c.toNat ≤ 90 ∧ c.toLower.toNat = c.toNat + 32 ∨
      c.isUpper = false ∧ c.toLower = c := by
  unfold Char.toLower
  split
  next h =>
    have hlow : 65 ≤ c.toNat := h.1
    have hhigh : c.toNat ≤ 90 := h.2
    have hsum : (c.toNat + 32) % 4294967296 = c.toNat + 32 := by omega
    exact .inl ⟨hlow, hhigh, hsum⟩
  next h => exact .inr ⟨decide_eq_false h, rfl⟩

theorem isUpper_toLower (c : Char) : c.toLower.isUpper = false := by
  rcases toLower_cases c with ⟨hlow, -, hlower⟩ | ⟨hupper, hlower⟩
  · rw [Bool.eq_false_iff, Ne, isUpper_iff]
    omega
  · rwa [hlower]

theorem toLower_toLower (c : Char) : c.toLower.toLower = c.toLower := by
  rcases toLower_cases c.toLower with ⟨hlow, hhigh, -⟩ | ⟨-, hlower⟩
  · exact absurd (isUpper_iff.mpr ⟨hlow, hhigh⟩) (Bool.eq_false_iff.mp (isUpper_toLower c))
  · exact hlower

theorem eq_null_of_toLower {c : Char} (h : c.toLower = '\x00') : c = '\x00' := by
  rcases toLower_cases c with ⟨-, -, hlower⟩ | ⟨-, hlower⟩
  · have hnull : c.toLower.toNat = 0 := congrArg Char.toNat h
    omega
  · rwa [hlower] at h

theorem isWhitespace_of_le {c : Char} (hc : 65 ≤ c.toNat) : isWhitespace c = false := by
  simp only [isWhitespace, Bool.or_eq_false_iff, beq_eq_false_iff_ne]
  refine ⟨⟨⟨⟨?_, ?_⟩, ?_⟩, ?_⟩, ?_⟩ <;> rintro rfl <;> revert hc <;> decide

theorem isWhitespace_toLower (c : Char) : isWhitespace c.toLower = isWhitespace c := by
  rcases toLower_cases c with ⟨hlow, -, hlower⟩ | ⟨-, hlower⟩
  · rw [isWhitespace_of_le hlow, isWhitespace_of_le (by omega)]
  · rw [hlower]

theorem utf8Size_toLower (c : Char) : c.toLower.utf8Size = c.utf8Size := by
  have hone : ∀ {d : Char}, d.toNat ≤ 127 → d.utf8Size = 1 := Char.utf8Size_eq_one_iff.mpr
  rcases toLower_cases c with ⟨-, hhigh, hlower⟩ | ⟨-, hlower⟩
  · rw [hone (d := c) (by omega), hone (by omega)]
  · rw [hlower]

/-! ## Texts -/

theorem isUpper_of_mem_lower {s : String} {c : Char} (h : c ∈ (lower s).toList) :
    c.isUpper = false := by
  rw [lower, String.toList_ofList, List.mem_map] at h
  obtain ⟨d, -, rfl⟩ := h
  exact isUpper_toLower d

theorem map_toLower_lower (s : String) :
    (lower s).toList.map Char.toLower = s.toList.map Char.toLower := by
  rw [lower, String.toList_ofList, List.map_map]
  exact List.map_congr_left fun c _ => toLower_toLower c

theorem lower_lower (s : String) : lower (lower s) = lower s := by
  rw [lower, map_toLower_lower, lower]

theorem eqIgnoreCase_refl (s : String) : eqIgnoreCase s s = true := by
  simp [eqIgnoreCase]

theorem eqIgnoreCase_lower (s t : String) : eqIgnoreCase (lower s) t = eqIgnoreCase s t := by
  rw [eqIgnoreCase, map_toLower_lower, eqIgnoreCase]

end StyleTree.Ascii
