import Mathlib.Data.List.Forall2
import Mathlib.Data.String.Basic
import StyleTree.Proofs.Text.Ascii
import StyleTree.Proofs.Text.Split
import StyleTree.Text.Language

/-!
# Language ranges

A range holds a language tag if its subtags stand in the tag, in their order, and no single
character is left out on the way to the last of them. The scan of the tag takes the first subtag
that fits and never takes that back. Nothing is lost by it: a single character that fits cannot be
left out by any other choice either, and a longer subtag can still be left out later.
-/

namespace StyleTree

/-! ## Bytes -/

theorem utf8ByteSize_eq (s : String) : s.utf8ByteSize = String.utf8Len s.toList := by
  rw [← String.utf8ByteSize_ofList, String.ofList_toList]

namespace Ascii

theorem utf8Len_map_toLower (cs : List Char) :
    String.utf8Len (cs.map Char.toLower) = String.utf8Len cs := by
  induction cs with
  | nil => rfl
  | cons c cs ih =>
    rw [List.map_cons, String.utf8Len_cons, String.utf8Len_cons, ih, utf8Size_toLower]

/-- Texts that differ in the case of letters only have the same number of bytes. -/
theorem utf8ByteSize_eq_of_eqIgnoreCase {s t : String} (h : eqIgnoreCase s t = true) :
    s.utf8ByteSize = t.utf8ByteSize := by
  rw [eqIgnoreCase, beq_iff_eq] at h
  rw [utf8ByteSize_eq, utf8ByteSize_eq, ← utf8Len_map_toLower s.toList, h, utf8Len_map_toLower]

theorem utf8Size_of_isAlphanumeric {c : Char} (h : isAlphanumeric c = true) : c.utf8Size = 1 := by
  have hle : c.val ≤ 'z'.val := by
    simp only [isAlphanumeric, isAlpha, isDigit, Bool.or_eq_true, Bool.and_eq_true,
      decide_eq_true_eq] at h
    rcases h with (h | h) | h
    · exact h.2
    · exact UInt32.le_trans h.2 (by decide)
    · exact UInt32.le_trans h.2 (by decide)
  exact Char.utf8Size_eq_one_iff.mpr (UInt32.le_trans hle (by decide))

/-- Letters and digits take one byte each. -/
theorem utf8ByteSize_of_isAlphanumeric {s : String}
    (h : ∀ c ∈ s.toList, isAlphanumeric c = true) : s.utf8ByteSize = s.length := by
  rw [utf8ByteSize_eq, ← String.length_toList]
  induction hcs : s.toList generalizing s with
  | nil => rfl
  | cons c cs ih =>
    rw [hcs, List.forall_mem_cons] at h
    have hrest := @ih (String.ofList cs) (by simpa using h.2) String.toList_ofList
    rw [String.utf8Len_cons, hrest, utf8Size_of_isAlphanumeric h.1, List.length_cons]

end Ascii

namespace Language

variable {s r t : String} {rs ts parts tag : List String} {start : Nat} {positions : List Nat}

/-! ## Subtags -/

/-- The parts are what stands between the hyphens of the text. -/
structure AreSubtags (s : String) (parts : List String) : Prop where
  nonempty : parts ≠ []
  joined : "-".intercalate parts = s
  unhyphenated : ∀ x ∈ parts, '-' ∉ x.toList

theorem subtags_eq (s : String) : subtags s = (s.toList.splitOn '-').map String.ofList := by
  rw [subtags, pieces_eq_splitOnP, List.splitOn_eq_splitOnP]

theorem areSubtags_subtags (s : String) : AreSubtags s (subtags s) where
  nonempty := by
    rw [subtags, ne_eq, List.map_eq_nil_iff]
    exact pieces_ne_nil _ _
  joined := by
    apply String.toList_injective
    have hself : String.toList ∘ String.ofList = id := funext fun _ => String.toList_ofList
    rw [String.toList_intercalate, subtags_eq, List.map_map, hself, List.map_id]
    exact List.intercalate_splitOn '-'
  unhyphenated := by
    intro x hx hyphen
    obtain ⟨piece, hpiece, rfl⟩ := List.mem_map.mp hx
    rw [String.toList_ofList] at hyphen
    cases not_of_mem_pieces hpiece hyphen

/-- There is one way only to part a text at its hyphens. -/
theorem areSubtags_iff : AreSubtags s parts ↔ parts = subtags s := by
  constructor
  · intro h
    have hself : String.ofList ∘ String.toList = id := funext fun _ => String.ofList_toList
    have hsplit : (("-".toList).intercalate (parts.map String.toList)).splitOn '-' =
        parts.map String.toList := by
      apply List.splitOn_intercalate '-'
      · intro l hl
        obtain ⟨x, hx, rfl⟩ := List.mem_map.mp hl
        exact h.unhyphenated x hx
      · simpa using h.nonempty
    rw [subtags_eq, ← h.joined, String.toList_intercalate, hsplit, List.map_map, hself, List.map_id]
  · rintro rfl
    exact areSubtags_subtags s

/-- A subtag that ranges may have: `*`, or one to eight letters and digits. -/
def FitsRange (s : String) : Prop :=
  s = "*" ∨ 1 ≤ s.length ∧ s.length ≤ 8 ∧ ∀ c ∈ s.toList, Ascii.isAlphanumeric c = true

theorem isRangeSubtag_iff : isRangeSubtag s = true ↔ FitsRange s := by
  have hempty : s.isEmpty = false ↔ 1 ≤ s.length := by
    rw [Bool.eq_false_iff, ne_eq, String.isEmpty_iff, ← String.length_eq_zero_iff]
    omega
  simp only [isRangeSubtag, FitsRange, Bool.or_eq_true, beq_iff_eq, Bool.and_eq_true,
    Bool.not_eq_true', hempty, decide_eq_true_eq, List.all_eq_true, and_assoc]
  refine or_congr_right (and_congr_right fun _ => ?_)
  constructor
  · rintro ⟨hsize, hall⟩
    exact ⟨Ascii.utf8ByteSize_of_isAlphanumeric hall ▸ hsize, hall⟩
  · rintro ⟨hlength, hall⟩
    exact ⟨(Ascii.utf8ByteSize_of_isAlphanumeric hall).symm ▸ hlength, hall⟩

/-! ## Scanning the tag -/

/-- The subtags can be found one after the other in the tag, where each subtag of the tag is taken
for the next one if it is equal to it, or left out unless it is a single character. The choice is
free. -/
inductive Found : List String → List String → Prop where
  | done {ts : List String} : Found [] ts
  | take {r t : String} {rs ts : List String} (ht : Ascii.eqIgnoreCase r t = true)
    (h : Found rs ts) : Found (r :: rs) (t :: ts)
  | leave {r t : String} {rs ts : List String} (ht : t.utf8ByteSize ≠ 1) (h : Found (r :: rs) ts) :
    Found (r :: rs) (t :: ts)

namespace Found

theorem leave_any (ht : t.utf8ByteSize ≠ 1) (h : Found rs ts) : Found rs (t :: ts) := by
  cases rs with
  | nil => exact .done
  | cons r rs => exact .leave ht h

/-- What can be found after a subtag that is no single character can be found without it. -/
theorem tail (hr : r.utf8ByteSize ≠ 1) (h : Found (r :: rs) ts) : Found rs ts := by
  induction ts with
  | nil => cases h
  | cons t ts ih =>
    cases h with
    -- The subtag of the tag that `r` was taken for is as long as `r`: it can be left out instead.
    | take ht h => exact h.leave_any (Ascii.utf8ByteSize_eq_of_eqIgnoreCase ht ▸ hr)
    | leave ht h => exact (ih h).leave_any ht

/-- Taking the first subtag that fits is as good as any choice. -/
theorem cons_iff_of_eq (ht : Ascii.eqIgnoreCase r t = true) :
    Found (r :: rs) (t :: ts) ↔ Found rs ts := by
  constructor
  · intro h
    cases h with
    | take _ h => exact h
    -- `t` was left out although it fits, so it is no single character, and neither is `r`.
    | leave hsize h => exact h.tail (Ascii.utf8ByteSize_eq_of_eqIgnoreCase ht ▸ hsize)
  · exact .take ht

theorem cons_iff_of_ne (ht : ¬Ascii.eqIgnoreCase r t = true) :
    Found (r :: rs) (t :: ts) ↔ t.utf8ByteSize ≠ 1 ∧ Found (r :: rs) ts := by
  constructor
  · intro h
    cases h with
    | take heq => exact absurd heq ht
    | leave hsize h => exact ⟨hsize, h⟩
  · rintro ⟨hsize, h⟩
    exact .leave hsize h

end Found

/-- The scan finds the subtags other than `*` if they can be found by any choice. -/
theorem restMatches_iff_found (rs ts : List String) :
    restMatches rs ts = true ↔ Found (rs.filter (· ≠ "*")) ts := by
  fun_induction restMatches rs ts with
  | case1 ts => exact iff_of_true rfl .done
  | case2 rs ts ih => simpa using ih
  | case3 r rs hr =>
    rw [List.filter_cons_of_pos (by simpa using hr)]
    exact iff_of_false Bool.false_ne_true (fun h => nomatch h)
  | case4 r rs hr t ts heq ih =>
    rw [List.filter_cons_of_pos (by simpa using hr), Found.cons_iff_of_eq heq, ih]
  | case5 r rs hr t ts hne hsize =>
    rw [List.filter_cons_of_pos (by simpa using hr), Found.cons_iff_of_ne hne]
    simp [hsize]
  | case6 r rs hr t ts hne hsize ih =>
    rw [ih, List.filter_cons_of_pos (by simpa using hr), Found.cons_iff_of_ne hne]
    simp [hsize]

/-! ## Positions in the tag -/

/-- The subtags stand at the positions of the tag, which are strictly increasing from `start` on,
and no subtag at another position between `start` and the last one is a single character. -/
structure StandAt (tag : List String) (start : Nat) (rs : List String) (positions : List Nat) :
    Prop where
  increasing : positions.Pairwise (· < ·)
  start_le : ∀ i ∈ positions, start ≤ i
  equal : List.Forall₂ (fun r i => ∃ t, tag[i]? = some t ∧ Ascii.eqIgnoreCase r t = true) rs
    positions
  unbarred : ∀ i t, tag[i]? = some t → start ≤ i → i ∉ positions → (∃ j ∈ positions, i < j) →
    t.utf8ByteSize ≠ 1

namespace StandAt

theorem nil : StandAt tag start [] [] where
  increasing := .nil
  start_le := fun _ hi => nomatch hi
  equal := .nil
  unbarred := fun _ _ _ _ _ ⟨_, hj, _⟩ => nomatch hj

/-- The first subtag stands at the start. -/
theorem cons_iff (ht : tag[start]? = some t) : StandAt tag start (r :: rs) (start :: positions) ↔
    Ascii.eqIgnoreCase r t = true ∧ StandAt tag (start + 1) rs positions := by
  constructor
  · intro h
    obtain ⟨hlt, hincreasing⟩ := List.pairwise_cons.mp h.increasing
    obtain ⟨⟨u, hu, hru⟩, hequal⟩ := List.forall₂_cons.mp h.equal
    obtain rfl : t = u := Option.some.inj (ht.symm.trans hu)
    refine ⟨hru, hincreasing, hlt, hequal, ?_⟩
    intro i u hi hle hmem ⟨j, hj, hij⟩
    refine h.unbarred i u hi (by omega) ?_ ⟨j, List.mem_cons_of_mem start hj, hij⟩
    rw [List.mem_cons, not_or]
    exact ⟨by omega, hmem⟩
  · rintro ⟨hrt, h⟩
    refine ⟨List.pairwise_cons.mpr ⟨h.start_le, h.increasing⟩, ?_, .cons ⟨t, ht, hrt⟩ h.equal, ?_⟩
    · rw [List.forall_mem_cons]
      exact ⟨Nat.le_refl start, fun i hi => Nat.le_of_succ_le (h.start_le i hi)⟩
    · intro i u hi hle hmem ⟨j, hj, hij⟩
      rw [List.mem_cons, not_or] at hmem
      have hj := (List.mem_cons.mp hj).resolve_left (by omega)
      exact h.unbarred i u hi (by omega) hmem.2 ⟨j, hj, hij⟩

/-- No subtag stands at the start, but some do later on. -/
theorem skip_iff (ht : tag[start]? = some t) (hne : positions ≠ []) :
    StandAt tag start rs positions ∧ start ∉ positions ↔
      t.utf8ByteSize ≠ 1 ∧ StandAt tag (start + 1) rs positions := by
  constructor
  · rintro ⟨h, hstart⟩
    have hlt : ∀ i ∈ positions, start + 1 ≤ i := fun i hi =>
      Nat.lt_of_le_of_ne (h.start_le i hi) (ne_of_mem_of_not_mem hi hstart).symm
    obtain ⟨j, hj⟩ := List.exists_mem_of_ne_nil positions hne
    have hsize := h.unbarred start t ht (Nat.le_refl start) hstart ⟨j, hj, hlt j hj⟩
    refine ⟨hsize, h.increasing, hlt, h.equal, ?_⟩
    intro i u hi hle
    exact h.unbarred i u hi (Nat.le_of_succ_le hle)
  · rintro ⟨hsize, h⟩
    refine ⟨⟨h.increasing, fun i hi => Nat.le_of_succ_le (h.start_le i hi), h.equal, ?_⟩, ?_⟩
    · intro i u hi hle hmem hlater
      rcases Nat.lt_or_eq_of_le hle with hlt | rfl
      · exact h.unbarred i u hi hlt hmem hlater
      · exact Option.some.inj (ht.symm.trans hi) ▸ hsize
    · exact fun hmem => Nat.lt_irrefl start (h.start_le start hmem)

end StandAt

theorem drop_eq_cons (h : tag.drop start = t :: ts) :
    tag[start]? = some t ∧ tag.drop (start + 1) = ts := by
  rw [← List.head?_drop, ← List.tail_drop, h]
  exact ⟨rfl, rfl⟩

/-- What can be found from a place of the tag on stands at some positions from there on. -/
theorem found_iff_standAt (hts : tag.drop start = ts) :
    Found rs ts ↔ ∃ positions, StandAt tag start rs positions := by
  induction ts generalizing start rs with
  | nil =>
    constructor
    · intro h
      cases h
      exact ⟨[], .nil⟩
    · rintro ⟨positions, h⟩
      cases h.equal with
      | nil => exact .done
      | @cons r i rs positions hi =>
        obtain ⟨t, ht, -⟩ := hi
        have hle := h.start_le i List.mem_cons_self
        have hlt := (List.getElem?_eq_some_iff.mp ht).1
        rw [List.drop_eq_nil_iff] at hts
        omega
  | cons t ts ih =>
    obtain ⟨ht, hts⟩ := drop_eq_cons hts
    constructor
    · intro h
      cases h with
      | done => exact ⟨[], .nil⟩
      | take hrt h =>
        obtain ⟨positions, hstand⟩ := (ih hts).mp h
        exact ⟨start :: positions, (StandAt.cons_iff ht).mpr ⟨hrt, hstand⟩⟩
      | leave hsize h =>
        obtain ⟨positions, hstand⟩ := (ih hts).mp h
        have hne : positions ≠ [] := by
          rintro rfl
          cases hstand.equal
        exact ⟨positions, ((StandAt.skip_iff ht hne).mpr ⟨hsize, hstand⟩).1⟩
    · rintro ⟨positions, h⟩
      cases rs with
      | nil => exact .done
      | cons r rs =>
        obtain ⟨i, later, -, -, rfl⟩ := List.forall₂_cons_left_iff.mp h.equal
        by_cases hi : i = start
        · subst i
          obtain ⟨hrt, h⟩ := (StandAt.cons_iff ht).mp h
          exact .take hrt ((ih hts).mpr ⟨later, h⟩)
        · have hstart : start ∉ i :: later := by
            have hlt := (List.pairwise_cons.mp h.increasing).1 start
            have hle := h.start_le i List.mem_cons_self
            rw [List.mem_cons, not_or]
            exact ⟨Ne.symm hi, fun hmem => by have := hlt hmem; omega⟩
          obtain ⟨hsize, h⟩ := (StandAt.skip_iff ht (List.cons_ne_nil i later)).mp ⟨h, hstart⟩
          exact .leave hsize ((ih hts).mpr ⟨_, h⟩)

/-! ## Ranges -/

/-- A language tag is in a range exactly if it is not empty, all subtags of the range are ones that
ranges may have, the first of them is `*` or the first subtag of the tag, and the others, but for
`*`, stand in the tag after its first subtag, in their order and with no single character left out
before the last of them. Letters are compared in any case. -/
theorem inRange_iff (language range : String) :
    inRange language range = true ↔ language ≠ "" ∧ ∃ r rs t ts,
      AreSubtags range (r :: rs) ∧ AreSubtags language (t :: ts) ∧
        (∀ s ∈ r :: rs, FitsRange s) ∧ (r = "*" ∨ Ascii.eqIgnoreCase r t = true) ∧
          ∃ positions, StandAt (t :: ts) 1 (rs.filter (· ≠ "*")) positions := by
  simp only [areSubtags_iff]
  obtain ⟨r, rs, hrange⟩ := List.exists_cons_of_ne_nil (areSubtags_subtags range).nonempty
  obtain ⟨t, ts, htag⟩ := List.exists_cons_of_ne_nil (areSubtags_subtags language).nonempty
  have hscan : restMatches rs ts = true ↔
      ∃ positions, StandAt (t :: ts) 1 (rs.filter (· ≠ "*")) positions :=
    (restMatches_iff_found rs ts).trans (found_iff_standAt rfl)
  have hfits : (r :: rs).all isRangeSubtag = true ↔ ∀ s ∈ r :: rs, FitsRange s := by
    simp only [List.all_eq_true, isRangeSubtag_iff]
  have hempty : (!language.isEmpty) = true ↔ language ≠ "" := by
    rw [Bool.not_eq_true', Bool.eq_false_iff, ne_eq, String.isEmpty_iff]
  simp only [inRange, hrange, htag, Bool.and_eq_true, Bool.or_eq_true, beq_iff_eq, hfits, hempty,
    hscan]
  constructor
  · rintro ⟨⟨hr, hlanguage⟩, hfirst, hrest⟩
    exact ⟨hlanguage, r, rs, t, ts, rfl, rfl, hr, hfirst, hrest⟩
  · rintro ⟨hlanguage, r', rs', t', ts', hr', ht', hr, hfirst, hrest⟩
    obtain ⟨rfl, rfl⟩ := List.cons.inj hr'
    obtain ⟨rfl, rfl⟩ := List.cons.inj ht'
    exact ⟨⟨hr, hlanguage⟩, hfirst, hrest⟩

/-- The tag may have subtags in between that the range does not name, but no single character. -/
example : inRange "de-DE-x-goethe" "de-*-DE" = true ∧ inRange "de-x-DE" "de-*-DE" = false := by
  decide +kernel

end Language

end StyleTree
