import Mathlib.Data.List.TakeWhile
import StyleTree.Proofs.Css.Spelling

/-!
# Readings that go on

What the readers of names, strings, comments and URLs read of a text when another one stands behind
it. If they come to their end before the text does, they read the same; at most, they take in white
space that stands behind it. If the text ends too soon for them, they go on behind it. Both are said
by `Reading.Extends`, of all texts behind which no token goes on.
-/

namespace StyleTree.Css

/-! ## Where tokens end -/

/-- A character that no token goes on with. -/
def isStop (c : Char) : Bool :=
  [';', ',', '!', '\x7b', '\x7d'].contains c

/-- No token goes on with the text, but for white space: after that the text is at its end, or
stands at a character that ends tokens and does not make `<` the opening `<!--`. -/
def endsTokens (s : List Char) : Bool :=
  match s.dropWhile isSpace with
  | [] => true
  | c :: r => isStop c && !(c == '!' && r.take 2 == ['-', '-'])

/-- The text starts with a character that ends tokens. -/
def startsStop (s : List Char) : Bool :=
  s.head?.any isStop

section EndsTokens

variable {c : Char} {r s : List Char}

theorem isStop_or_isSpace_of_endsTokens (h : endsTokens (c :: r) = true) :
    isStop c = true ∨ isSpace c = true := by
  by_cases hc : isSpace c = true
  · exact .inr hc
  · rw [endsTokens, List.dropWhile_cons_of_neg hc] at h
    simp only [Bool.and_eq_true] at h
    exact .inl h.1

theorem isSpace_of_isStop (h : isStop c = true) : isSpace c = false := by
  simp only [isStop, List.contains_eq_mem, decide_eq_true_eq, List.mem_cons,
    List.not_mem_nil, or_false] at h
  rcases h with rfl | rfl | rfl | rfl | rfl <;> rfl

/-- The characters that end tokens have a meaning in no token but their own. -/
theorem ne_of_endsTokens {x : Char} (h : endsTokens s = true) (hstop : isStop x = false)
    (hspace : isSpace x = false) : s.head? ≠ some x := by
  cases s with
  | nil => simp
  | cons c r =>
    rintro ⟨⟩
    rcases isStop_or_isSpace_of_endsTokens h with h | h
    · simp [hstop] at h
    · simp [hspace] at h

/-- A text in front can start with such a character only by itself. -/
theorem cons_of_append_eq {x : Char} {t : List Char} (hs : endsTokens s = true)
    (hstop : isStop x = false) (hspace : isSpace x = false) (h : r ++ s = x :: t) :
    ∃ r', r = x :: r' ∧ r' ++ s = t := by
  cases r with
  | nil =>
    rw [List.nil_append] at h
    exact absurd (h ▸ rfl) (ne_of_endsTokens hs hstop hspace)
  | cons c r =>
    obtain ⟨rfl, rfl⟩ := List.cons.inj h
    exact ⟨r, rfl, rfl⟩

theorem stopsName_of_endsTokens (h : endsTokens s = true) : stopsName s = true := by
  cases s with
  | nil => rfl
  | cons c r =>
    have hc := isStop_or_isSpace_of_endsTokens h
    simp only [isStop, isSpace, isNewline, List.contains_eq_mem, decide_eq_true_eq, List.mem_cons,
      List.not_mem_nil, or_false, Bool.or_eq_true, beq_iff_eq] at hc
    rcases hc with (rfl | rfl | rfl | rfl | rfl) | ((rfl | rfl) | (rfl | rfl) | rfl) <;> rfl

theorem name_of_endsTokens (h : endsTokens s = true) : name s = ⟨[], true, s⟩ :=
  name_of_stopsName (stopsName_of_endsTokens h)

/-- What stands behind white space ends tokens as well. -/
theorem endsTokens_of_append {sp : List Char} (hsp : ∀ c ∈ sp, isSpace c = true) :
    endsTokens (sp ++ s) = endsTokens s := by
  rw [endsTokens, List.dropWhile_append_of_pos hsp, endsTokens]

end EndsTokens

/-! ## Readings -/

/-- The rest of a text that goes on with `s`, where `rest` is what is left of the text alone: if
nothing is, white space at the start of `s` may be gone too. -/
def Leaves (rest s rest' : List Char) : Prop :=
  rest' = rest ++ s ∨ rest = [] ∧ ∃ sp, (∀ c ∈ sp, isSpace c = true) ∧ s = sp ++ rest'

/-- How `whole`, what is read of a text with `s` behind it, is related to `part`, what is read of
the text alone. -/
structure Reading.Extends {α : Type} (part whole : Reading α) (s : List Char) : Prop where
  value : part.complete = true → whole.value = part.value
  complete : part.complete = true → whole.complete = true
  leaves : part.complete = true → Leaves part.rest s whole.rest
  runsOn : part.complete = false → startsStop s = true → whole.rest.length < s.length

/-- The reading stops before the end of the text. -/
theorem Reading.Extends.of_stopped {α : Type} {value : α} {rest s : List Char} :
    Reading.Extends ⟨value, true, rest⟩ ⟨value, true, rest ++ s⟩ s :=
  ⟨fun _ => rfl, fun _ => rfl, fun _ => .inl rfl, nofun⟩

/-- The text ends too soon, and the reading goes on behind it. -/
theorem Reading.Extends.of_cut {α : Type} {part whole : Reading α} {s : List Char}
    (hpart : part.complete = false) (hwhole : startsStop s = true → whole.rest.length < s.length) :
    part.Extends whole s :=
  ⟨by simp [hpart], by simp [hpart], by simp [hpart], fun _ => hwhole⟩

/-- What is made of the value does not matter. -/
theorem Reading.Extends.map {α β : Type} {part whole : Reading α} {s : List Char}
    (h : part.Extends whole s) (f : α → β) :
    Reading.Extends ⟨f part.value, part.complete, part.rest⟩
      ⟨f whole.value, whole.complete, whole.rest⟩ s :=
  ⟨fun hc => congrArg f (h.value hc), h.complete, h.leaves, h.runsOn⟩

theorem ne_nil_of_startsStop {s : List Char} (h : startsStop s = true) : s ≠ [] := by
  rintro rfl
  cases h

/-! ## Escapes -/

variable {s : List Char}

theorem hexDigits_append (hs : endsTokens s = true) (n acc : Nat) (r : List Char) :
    hexDigits n acc (r ++ s) = ((hexDigits n acc r).1, (hexDigits n acc r).2 ++ s) := by
  induction n generalizing acc r with
  | zero => simp [hexDigits]
  | succ n ih =>
    cases r with
    | nil =>
      cases s with
      | nil => rfl
      | cons c s =>
        have hname := stopsName_of_endsTokens hs
        have hhex : Ascii.hexDigit? c = none := by
          by_contra hhex
          have halnum := isAlphanumeric_of_hexDigit? hhex
          simp only [stopsName, isNameChar, isNameStart, Bool.and_eq_true, Bool.not_eq_true',
            Bool.or_eq_false_iff] at hname
          simp [Ascii.isAlphanumeric, hname] at halnum
        rw [List.nil_append, hexDigits, hhex, hexDigits]
        · rfl
        · simp
    | cons c r =>
      rw [List.cons_append, hexDigits, hexDigits]
      split
      · exact ih _ _
      · rfl

theorem Leaves.eq_append {rest rest' : List Char} (h : Leaves rest s rest')
    (hstop : startsStop s = true) : rest' = rest ++ s := by
  rcases h with h | ⟨rfl, sp, hsp, rfl⟩
  · exact h
  · cases sp with
    | nil => rfl
    | cons c sp =>
      have hc : isSpace c = false := isSpace_of_isStop hstop
      rw [hsp c List.mem_cons_self] at hc
      cases hc

/-- What is left still ends tokens. -/
theorem Leaves.endsTokens {rest' : List Char} (h : Leaves [] s rest')
    (hs : Css.endsTokens s = true) : Css.endsTokens rest' = true := by
  rcases h with rfl | ⟨-, sp, hsp, rfl⟩
  · exact hs
  · rwa [endsTokens_of_append hsp] at hs

theorem leaves_dropOneSpace (r : List Char) :
    Leaves (dropOneSpace r) s (dropOneSpace (r ++ s)) := by
  have hnil : ∀ t, Leaves [] t (dropOneSpace t) := by
    intro t
    fun_cases dropOneSpace t with
    | case1 r => exact .inr ⟨rfl, ['\r', '\n'], by simp [isSpace, isNewline], rfl⟩
    | case2 c r _ hc => exact .inr ⟨rfl, [c], by simpa using hc, rfl⟩
    | case3 c r _ hc => exact .inl rfl
    | case4 => exact .inl rfl
  fun_cases dropOneSpace r with
  | case1 r => exact .inl rfl
  | case2 c r hcrlf hc =>
    cases r with
    | nil =>
      cases s with
      | nil => simp [dropOneSpace, hc, Leaves]
      | cons d t =>
        by_cases hd : c = '\r' ∧ d = '\n'
        · obtain ⟨rfl, rfl⟩ := hd
          exact .inr ⟨rfl, ['\n'], by simp [isSpace, isNewline], rfl⟩
        · rw [List.singleton_append, dropOneSpace, if_pos hc]
          · exact .inl rfl
          · rintro t rfl ⟨⟩
            exact hd ⟨rfl, rfl⟩
    | cons d r =>
      rw [List.cons_append, List.cons_append, dropOneSpace, if_pos hc]
      · exact .inl rfl
      · rintro t rfl ⟨⟩
        exact hcrlf r rfl rfl
  | case3 c r _ hc =>
    rw [List.cons_append, dropOneSpace, if_neg hc]
    · exact .inl rfl
    · rintro t rfl
      cases hc rfl
  | case4 => exact hnil s

/-- An escape stands for the same character, whatever comes behind it. -/
theorem escape_append (hs : endsTokens s = true) {r : List Char} (hr : r ≠ []) :
    (escape (r ++ s)).1 = (escape r).1 ∧ Leaves (escape r).2 s (escape (r ++ s)).2 := by
  cases r with
  | nil => exact absurd rfl hr
  | cons c r =>
    rw [List.cons_append, escape, escape]
    split
    · rw [hexDigits_append hs]
      exact ⟨rfl, leaves_dropOneSpace _⟩
    · exact ⟨rfl, .inl rfl⟩

/-- An escape takes at least one character. -/
theorem length_escape_lt (h : s ≠ []) : (escape s).2.length < s.length := by
  cases s with
  | nil => exact absurd rfl h
  | cons c r =>
    rw [escape]
    split
    · have h₁ := hexDigits_length_le 5 ‹_› r
      have h₂ := dropOneSpace_length_le (hexDigits 5 ‹_› r).2
      simp only [List.length_cons]
      omega
    · simp

theorem startsNewline_append {r : List Char} (hr : r ≠ []) :
    startsNewline (r ++ s) = startsNewline r := by
  cases r with
  | nil => exact absurd rfl hr
  | cons c r => rfl

theorem startsNewline_of_startsStop (h : startsStop s = true) : startsNewline s = false := by
  cases s with
  | nil => rfl
  | cons c r =>
    have hc : isSpace c = false := isSpace_of_isStop h
    simp only [isSpace, Bool.or_eq_false_iff] at hc
    exact hc.2

/-! ## Names and strings -/

theorem name_extends (hs : endsTokens s = true) (r : List Char) :
    (name r).Extends (name (r ++ s)) s := by
  fun_induction name r with
  | case1 =>
    rw [List.nil_append, name_of_endsTokens hs]
    exact .of_stopped
  | case2 r hr =>
    have hne : r ≠ [] := by
      rintro rfl
      cases hr
    rw [List.cons_append, name, if_pos rfl, startsNewline_append hne, if_pos hr]
    exact .of_stopped
  | case3 r hr e more ih =>
    cases hnil : r.isEmpty with
    | true =>
      obtain rfl := List.isEmpty_iff.mp hnil
      refine .of_cut (by simp) fun hstop => ?_
      rw [List.cons_append, name, if_pos rfl, List.nil_append, startsNewline_of_startsStop hstop]
      exact Nat.lt_of_le_of_lt (name_suffix _).length_le
        (length_escape_lt (ne_nil_of_startsStop hstop))
    | false =>
      have hne : r ≠ [] := by simpa using hnil
      obtain ⟨hchar, hleaves⟩ := escape_append hs hne
      have hwhole : name ('\\' :: r ++ s) =
          ⟨e.1 :: (name (escape (r ++ s)).2).value, (name (escape (r ++ s)).2).complete,
            (name (escape (r ++ s)).2).rest⟩ := by
        rw [List.cons_append, name, if_pos rfl, startsNewline_append hne, if_neg hr]
        simp [hne, hchar, e]
      rw [hwhole, Bool.not_false, Bool.and_true]
      rcases hleaves with hrest | ⟨hrest, hspace⟩
      · rw [hrest]
        exact ih.map (e.1 :: ·)
      · have hends := Leaves.endsTokens (.inr ⟨rfl, hspace⟩) hs
        have hmore : more = ⟨[], true, []⟩ := by
          show name (escape r).2 = _
          rw [hrest, name]
        rw [name_of_endsTokens hends, hmore]
        exact ⟨fun _ => rfl, fun _ => rfl, fun _ => .inr ⟨rfl, hspace⟩,
          fun hcut => by cases hcut⟩
  | case4 c r hback hc more ih =>
    rw [List.cons_append, name, if_neg hback, if_pos hc]
    exact ih.map ((if c = '\x00' then '\ufffd' else c) :: ·)
  | case5 c r hback hc =>
    rw [List.cons_append, name, if_neg hback, if_neg hc]
    exact .of_stopped

/-- Behind a line break the same is left, unless the text ends with it. -/
theorem dropNewline_append {r : List Char} (hr : startsNewline r = true)
    (hs : startsNewline s = false ∨ dropNewline r ≠ []) :
    dropNewline (r ++ s) = dropNewline r ++ s := by
  fun_cases dropNewline r with
  | case1 r => rfl
  | case2 c r hcrlf =>
    rw [List.cons_append, dropNewline]
    rintro t rfl ht
    cases r with
    | nil =>
      have hnewline : startsNewline s = true := by rw [List.nil_append] at ht; rw [ht]; rfl
      simp [hnewline, dropNewline] at hs
    | cons d r =>
      obtain ⟨rfl, -⟩ := List.cons.inj ht
      exact hcrlf r rfl rfl
  | case3 => cases hr

/-- A string takes in whatever stands behind its opening quote but a line break. -/
theorem length_quotedRest_lt {quote : Char} (hs : s ≠ []) (hnewline : startsNewline s = false) :
    (quotedRest quote s).rest.length < s.length := by
  cases s with
  | nil => exact absurd rfl hs
  | cons c r =>
    have hc : isNewline c = false := hnewline
    have hr : r.length < (c :: r).length := Nat.lt_succ_self _
    rw [quotedRest]
    split
    · exact hr
    rw [if_neg (by simp [hc])]
    split
    · split
      · have hsuffix := (quotedRest_suffix quote (dropNewline r)).trans (dropNewline_suffix r)
        exact Nat.lt_of_le_of_lt hsuffix.length_le hr
      · split
        · exact Nat.zero_lt_succ _
        · have hsuffix := (quotedRest_suffix quote (escape r).2).trans (escape_suffix r)
          exact Nat.lt_of_le_of_lt hsuffix.length_le hr
    · exact Nat.lt_of_le_of_lt (quotedRest_suffix quote r).length_le hr

theorem quotedRest_extends (hs : endsTokens s = true) (quote : Char) (r : List Char) :
    (quotedRest quote r).Extends (quotedRest quote (r ++ s)) s := by
  have hnil : Reading.Extends ⟨some [], false, []⟩ (quotedRest quote s) s := by
    exact .of_cut rfl fun hstop =>
      length_quotedRest_lt (ne_nil_of_startsStop hstop) (startsNewline_of_startsStop hstop)
  fun_induction quotedRest quote r with
  | case1 => exact hnil
  | case2 r =>
    rw [List.cons_append, quotedRest, if_pos rfl]
    exact .of_stopped
  | case3 c r hquote hc =>
    rw [List.cons_append, quotedRest, if_neg hquote, if_pos hc]
    exact .of_stopped
  | case4 r hr hquote hc ih =>
    have hne : r ≠ [] := by
      rintro rfl
      cases hr
    rw [List.cons_append, quotedRest, if_neg hquote, if_neg hc, if_pos rfl,
      startsNewline_append hne, if_pos hr]
    by_cases hcut : startsNewline s = false ∨ dropNewline r ≠ []
    · rw [dropNewline_append hr hcut]
      exact ih
    · simp only [not_or, ne_eq, not_not, Bool.not_eq_false] at hcut
      rw [hcut.2, quotedRest]
      refine .of_cut rfl fun hstop => ?_
      simp [startsNewline_of_startsStop hstop] at hcut
  | case5 r hr hempty hquote hc =>
    obtain rfl := List.isEmpty_iff.mp hempty
    refine .of_cut rfl fun hstop => ?_
    obtain ⟨c, t, rfl⟩ := List.exists_cons_of_ne_nil (ne_nil_of_startsStop hstop)
    rw [List.cons_append, quotedRest, if_neg hquote, if_neg hc, if_pos rfl, List.nil_append,
      startsNewline_of_startsStop hstop]
    exact Nat.lt_of_le_of_lt (quotedRest_suffix _ _).length_le
      (length_escape_lt (List.cons_ne_nil _ _))
  | case6 r hr hempty e more hquote hc ih =>
    have hne : r ≠ [] := by simpa using hempty
    obtain ⟨hchar, hleaves⟩ := escape_append hs hne
    have hwhole : quotedRest quote ('\\' :: r ++ s) =
        ⟨(quotedRest quote (escape (r ++ s)).2).value.map (e.1 :: ·),
          (quotedRest quote (escape (r ++ s)).2).complete,
          (quotedRest quote (escape (r ++ s)).2).rest⟩ := by
      rw [List.cons_append, quotedRest, if_neg hquote, if_neg hc, if_pos rfl,
        startsNewline_append hne, if_neg hr]
      simp [hne, hchar, e]
    rw [hwhole]
    rcases hleaves with hrest | ⟨hrest, hspace⟩
    · rw [hrest]
      exact ih.map (Option.map (e.1 :: ·))
    · have hmore : more = ⟨some [], false, []⟩ := by
        show quotedRest quote (escape r).2 = _
        rw [hrest, quotedRest]
      rw [hmore]
      refine .of_cut rfl fun hstop => ?_
      have hrest := Leaves.eq_append (.inr ⟨rfl, hspace⟩) hstop
      rw [hrest, List.nil_append]
      exact hnil.runsOn rfl hstop
  | case7 c r hquote hc hback more ih =>
    rw [List.cons_append, quotedRest, if_neg hquote, if_neg hc, if_neg hback]
    exact ih.map (Option.map ((if c = '\x00' then '\ufffd' else c) :: ·))

/-! ## Comments and URLs -/

/-- A comment takes in whatever stands behind its opening. -/
theorem length_commentRest_lt (hs : s ≠ []) : (commentRest s).rest.length < s.length := by
  fun_cases commentRest s with
  | case1 r =>
    simp only [List.length_cons]
    omega
  | case2 c r _ => exact Nat.lt_succ_of_le (commentRest_suffix r).length_le
  | case3 => exact absurd rfl hs

theorem commentRest_extends (hs : endsTokens s = true) (r : List Char) :
    (commentRest r).Extends (commentRest (r ++ s)) s := by
  fun_induction commentRest r with
  | case1 r => exact .of_stopped
  | case2 c r hend ih =>
    rw [List.cons_append, commentRest]
    · exact ih
    · intro t hc ht
      obtain ⟨r', hr, -⟩ := cons_of_append_eq hs rfl rfl ht
      exact hend r' hc hr
  | case3 =>
    exact .of_cut rfl fun hstop => length_commentRest_lt (ne_nil_of_startsStop hstop)

theorem length_badUrlRest_lt (hs : s ≠ []) : (badUrlRest s).rest.length < s.length := by
  fun_cases badUrlRest s with
  | case1 => exact absurd rfl hs
  | case2 r => simp
  | case3 r | case4 r =>
    have := (badUrlRest_suffix r).length_le
    simp only [List.length_cons]
    omega
  | case5 c r => exact Nat.lt_succ_of_le (badUrlRest_suffix r).length_le

theorem badUrlRest_extends (hs : endsTokens s = true) (r : List Char) :
    (badUrlRest r).Extends (badUrlRest (r ++ s)) s := by
  fun_induction badUrlRest r with
  | case1 =>
    exact .of_cut rfl fun hstop => length_badUrlRest_lt (ne_nil_of_startsStop hstop)
  | case2 r => exact .of_stopped
  | case3 r ih => exact ih
  | case4 r ih => exact ih
  | case5 c r hclose hescape hescape' ih =>
    rw [List.cons_append, badUrlRest]
    · exact ih
    · exact hclose
    · intro t hc ht
      obtain ⟨r', hr, -⟩ := cons_of_append_eq hs rfl rfl ht
      exact hescape r' hc hr
    · intro t hc ht
      obtain ⟨r', hr, -⟩ := cons_of_append_eq hs rfl rfl ht
      exact hescape' r' hc hr

theorem length_urlEnd_lt (value : List Char) (hs : s ≠ []) :
    (urlEnd value s).rest.length < s.length := by
  have hdrop := (List.dropWhile_suffix isSpace (l := s)).length_le
  rw [urlEnd]
  split
  · exact List.length_pos_iff.mpr hs
  next r h =>
    rw [h, List.length_cons] at hdrop
    exact hdrop
  next c r _ h =>
    rw [h, List.length_cons] at hdrop
    have := (badUrlRest_suffix r).length_le
    omega

theorem urlEnd_extends (hs : endsTokens s = true) (value r : List Char) :
    (urlEnd value r).Extends (urlEnd value (r ++ s)) s := by
  by_cases hr : ∀ c ∈ r, isSpace c = true
  · have hpart : urlEnd value r = ⟨some value, false, []⟩ := by
      rw [urlEnd, List.dropWhile_eq_nil_iff.mpr hr]
    have hwhole : urlEnd value (r ++ s) = urlEnd value s := by
      rw [urlEnd, List.dropWhile_append_of_pos hr, urlEnd]
    rw [hpart, hwhole]
    exact .of_cut rfl fun hstop => length_urlEnd_lt value (ne_nil_of_startsStop hstop)
  · have hne : r.dropWhile isSpace ≠ [] := fun h => hr (List.dropWhile_eq_nil_iff.mp h)
    obtain ⟨c, t, ht⟩ := List.exists_cons_of_ne_nil hne
    have hdrop : (r ++ s).dropWhile isSpace = c :: (t ++ s) := by
      rw [List.dropWhile_append, ht]
      rfl
    rw [urlEnd, urlEnd, ht, hdrop]
    by_cases hc : c = ')'
    · subst hc
      exact .of_stopped
    · split
      next h => cases h
      next h => exact absurd (List.cons.inj h).1 hc
      next h =>
        obtain ⟨-, rfl⟩ := List.cons.inj h
        exact badUrlRest_extends hs t

theorem length_urlRest_lt (seen : List Char) (hs : s ≠ []) :
    (urlRest seen s).rest.length < s.length := by
  cases s with
  | nil => exact absurd rfl hs
  | cons c r =>
    have hr : r.length < (c :: r).length := Nat.lt_succ_self _
    rw [urlRest]
    split
    · exact hr
    split
    · exact length_urlEnd_lt _ hs
    split
    · exact Nat.lt_of_le_of_lt (badUrlRest_suffix r).length_le hr
    split
    · split
      · exact Nat.lt_of_le_of_lt (badUrlRest_suffix r).length_le hr
      · have hsuffix := (urlRest_suffix ((escape r).1 :: seen) (escape r).2).trans (escape_suffix r)
        exact Nat.lt_of_le_of_lt hsuffix.length_le hr
    · exact Nat.lt_of_le_of_lt (urlRest_suffix _ r).length_le hr

theorem urlRest_extends (hs : endsTokens s = true) (seen r : List Char) :
    (urlRest seen r).Extends (urlRest seen (r ++ s)) s := by
  fun_induction urlRest seen r with
  | case1 seen =>
    exact .of_cut rfl fun hstop => length_urlRest_lt seen (ne_nil_of_startsStop hstop)
  | case2 seen r =>
    rw [List.cons_append, urlRest, if_pos rfl]
    exact .of_stopped
  | case3 seen c r hclose hc =>
    rw [List.cons_append, urlRest, if_neg hclose, if_pos hc, ← List.cons_append]
    exact urlEnd_extends hs _ _
  | case4 seen c r hclose hc hbad =>
    rw [List.cons_append, urlRest, if_neg hclose, if_neg hc, if_pos hbad]
    exact badUrlRest_extends hs r
  | case5 seen r hr hclose hc hbad =>
    have hne : r ≠ [] := by
      rintro rfl
      cases hr
    rw [List.cons_append, urlRest, if_neg hclose, if_neg hc, if_neg hbad, if_pos rfl,
      startsNewline_append hne, if_pos hr]
    exact badUrlRest_extends hs r
  | case6 seen r hr e hclose hc hbad ih =>
    by_cases hne : r = []
    · subst hne
      have hpart : urlRest (e.1 :: seen) e.2 = ⟨some (e.1 :: seen).reverse, false, []⟩ := by
        show urlRest _ [] = _
        rw [urlRest]
      rw [hpart]
      refine .of_cut rfl fun hstop => ?_
      rw [List.cons_append, urlRest, if_neg hclose, if_neg hc, if_neg hbad, if_pos rfl,
        List.nil_append, startsNewline_of_startsStop hstop]
      exact Nat.lt_of_le_of_lt (urlRest_suffix _ _).length_le
        (length_escape_lt (ne_nil_of_startsStop hstop))
    · obtain ⟨hchar, hleaves⟩ := escape_append hs hne
      have hwhole : urlRest seen ('\\' :: r ++ s) =
          urlRest (e.1 :: seen) (escape (r ++ s)).2 := by
        rw [List.cons_append, urlRest, if_neg hclose, if_neg hc, if_neg hbad, if_pos rfl,
          startsNewline_append hne, if_neg hr]
        simp [hchar, e]
      rw [hwhole]
      rcases hleaves with hrest | ⟨hrest, hspace⟩
      · rw [hrest]
        exact ih
      · have hpart : urlRest (e.1 :: seen) e.2 = ⟨some (e.1 :: seen).reverse, false, []⟩ := by
          show urlRest _ (escape r).2 = _
          rw [hrest, urlRest]
        rw [hpart]
        refine .of_cut rfl fun hstop => ?_
        have hrest := Leaves.eq_append (.inr ⟨rfl, hspace⟩) hstop
        rw [hrest, List.nil_append]
        exact length_urlRest_lt _ (ne_nil_of_startsStop hstop)
  | case7 seen c r hclose hc hbad hback ih =>
    rw [List.cons_append, urlRest, if_neg hclose, if_neg hc, if_neg hbad, if_neg hback]
    exact ih

end StyleTree.Css
