import StyleTree.Document.Sheets

/-!
# What a sheet is loaded from

The fragment of a base URL does not decide what a reference leads to, so neither does that of the
document decide what is loaded.
-/

namespace StyleTree

namespace Url

variable (b : Url) (scheme : String) (s : List Char) (isLast : Bool)

theorem file?_withoutFragment : file? (some b.withoutFragment) s = file? (some b) s := by
  have hroot : ∀ r, fileFromRoot (some b.withoutFragment) r = fileFromRoot (some b) r :=
    fun _ => rfl
  unfold file?
  cases next? s with
  | none => rfl
  | some p => simp only [hroot]; rfl

theorem absolute?_withoutFragment :
    absolute? (some b.withoutFragment) scheme s isLast = absolute? (some b) scheme s isLast := by
  have hsame : b.withoutFragment.scheme = b.scheme := rfl
  unfold absolute?
  by_cases hs : (b.scheme == scheme) = true
  · simp only [Option.filter, hsame, hs, if_true]
    rw [file?_withoutFragment]
    rfl
  · simp only [Option.filter, hsame, hs]
    rfl

theorem parse?_withoutFragment (text : String) :
    parse? (some b.withoutFragment) text = parse? (some b) text := by
  have hpath : b.withoutFragment.path = b.path := rfl
  have hscheme : b.withoutFragment.scheme = b.scheme := rfl
  unfold parse?
  dsimp only
  cases scheme? (Reference.ofText (trimPadding text.toList)).front with
  | some p =>
    simp only [absolute?_withoutFragment]
    rfl
  | none =>
    simp only [hpath, hscheme, file?_withoutFragment]
    rfl

end Url

namespace Page

variable {p q : Page} {b c : Option Url}

/-- A reference leads to the same from two URLs that differ in their fragments. -/
theorem resolve?_congr (h : b.map Url.withoutFragment = c.map Url.withoutFragment)
    (reference : String) : resolve? b reference = resolve? c reference := by
  cases b with
  | none =>
    obtain rfl : c = none := by simpa using h.symm
    rfl
  | some b =>
    obtain ⟨c, rfl, hc⟩ := Option.map_eq_some_iff.mp h.symm
    have hb := Url.parse?_withoutFragment b (trim reference)
    rw [← hc] at hb
    exact hb.symm.trans (Url.parse?_withoutFragment c (trim reference))

theorem baseUrl_congr (hhref : q.baseHref? = p.baseHref?)
    (hurl : q.url.map Url.withoutFragment = p.url.map Url.withoutFragment) :
    q.baseUrl.map Url.withoutFragment = p.baseUrl.map Url.withoutFragment := by
  unfold baseUrl
  rw [hhref]
  cases p.baseHref? with
  | none => exact hurl
  | some href =>
    dsimp only
    rw [resolve?_congr hurl]
    cases resolve? p.url href with
    | none => exact hurl
    | some url => rfl

end Page

end StyleTree
