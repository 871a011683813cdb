import Mathlib.Data.List.Basic
import StyleTree.Sheet.Rule
import StyleTree.Proofs.Css.MediaQueries
import StyleTree.Proofs.Css.RuleLists

/-!
# Style sheets one after another and in blocks

What a rule means depends on its values alone, at any depth. So the rules of a closed style sheet
stay the same before another one and within a block for some media, but for the places they were
read at.
-/

namespace StyleTree

open Css

namespace Rule

/-! ## Rules without their places -/

mutual

/-- The rule without the places that it was read at. -/
def unlocated : Rule → Rule
  | style rule => style { rule with location := .start }
  | media list rules => media list (unlocatedAll rules)

def unlocatedAll : List Rule → List Rule
  | [] => []
  | r :: rs => r.unlocated :: unlocatedAll rs

end

theorem unlocatedAll_eq_map (rs : List Rule) : unlocatedAll rs = rs.map unlocated := by
  induction rs with
  | nil => rfl
  | cons r rs ih => rw [unlocatedAll, ih, List.map_cons]

theorem map_unlocated_ofRaw? {inner inner' : Location → List ComponentValue → List Rule}
    {r : RawRule} (h : ∀ body, r.body = some body → ∀ start start',
      (inner start body).map unlocated = (inner' start' body).map unlocated) :
    (ofRaw? inner r).map unlocated = (ofRaw? inner' r.unlocated).map unlocated := by
  obtain ⟨keyword, prelude, body, start, bodyStart⟩ := r
  have hunlocated : RawRule.unlocated ⟨keyword, prelude, body, start, bodyStart⟩ =
      ⟨keyword, prelude, body, .start, .start⟩ := rfl
  rw [hunlocated]
  cases body with
  | none => cases keyword <;> rfl
  | some body =>
    cases keyword with
    | some name =>
      simp only [ofRaw?]
      split
      · simp only [Option.map_some, unlocated, unlocatedAll_eq_map]
        rw [h body rfl bodyStart .start]
      · rfl
    | none =>
      simp only [ofRaw?]
      split
      · rfl
      · cases Selector.ofValues? prelude <;> rfl

/-- What a raw rule means, without places. -/
def meaning? (r : RawRule) : Option Rule :=
  (ofRaw? (fun _ body => ofValues (depthOf body + 1) .start body) r).map unlocated

theorem depthOf_body_lt {vs : List ComponentValue} {r : RawRule} (hr : r ∈ RawRule.rules vs)
    {body : List ComponentValue} (hbody : r.body = some body) : depthOf body < depthOf vs := by
  obtain ⟨o, close, hblock⟩ := RawRule.exists_block_of_mem_rules hr hbody
  exact depth_le_of_mem hblock

/-- The rules of values, at any bound of their depth and from any place on, are what the raw rules
among them mean. -/
theorem map_unlocated_ofValues {depth : Nat} {vs : List ComponentValue} (h : depthOf vs < depth)
    (start : Location) :
    (ofValues depth start vs).map unlocated = (RawRule.rules vs).filterMap meaning? := by
  induction depth using Nat.strong_induction_on generalizing vs start with
  | h depth ih =>
    obtain ⟨depth, rfl⟩ := Nat.exists_eq_add_one_of_ne_zero (Nat.ne_zero_of_lt h)
    rw [ofValues, List.map_filterMap, ← RawRule.map_unlocated_list start, List.filterMap_map]
    refine List.filterMap_congr fun r hr => ?_
    refine map_unlocated_ofRaw? fun body hbody here here' => ?_
    have hmem : r.unlocated ∈ RawRule.rules vs :=
      RawRule.map_unlocated_list start vs ▸ List.mem_map_of_mem hr
    have hdepth : depthOf body < depthOf vs := depthOf_body_lt hmem hbody
    rw [ih depth (by omega) (by omega), ih (depthOf body + 1) (by omega) (by omega)]

theorem map_unlocated_parse (s : String) :
    (parse s).map unlocated = (RawRule.rules (values s)).filterMap meaning? :=
  map_unlocated_ofValues (Nat.lt_succ_self _) .start

end Rule

/-! ## Blocks for some media -/

namespace Css

/-- White space in front of a text. -/
theorem space_cons {s : List Char} (h : IsWhole s) :
    IsWhole (' ' :: s) ∧ bareLexemes (lexemes (' ' :: s)) = bareLexemes (lexemes s) := by
  obtain ⟨blanks, hblanks, hs⟩ := lexemes_dropWhile_isSpace s
  have hspace : lexemes (' ' :: s) =
      .ofReading ' ' s (token ' ' s) :: lexemes (s.dropWhile isSpace) := lexemes_cons ' ' s
  constructor
  · rw [IsWhole, hspace]
    exact List.forall_mem_cons.mpr
      ⟨rfl, fun l hl => h l (hs ▸ List.mem_append_right _ hl)⟩
  · have hblank : bareLexemes blanks = [] := bareLexemes_of_blanks fun l hl => by
      rw [hblanks l hl]
      rfl
    rw [hspace, hs, bareLexemes_append, hblank]
    rfl

theorem lexemes_media (s : List Char) :
    lexemes ('@' :: 'm' :: 'e' :: 'd' :: 'i' :: 'a' :: ' ' :: s) =
      ⟨.atKeyword "media", ['@', 'm', 'e', 'd', 'i', 'a'], true⟩ :: lexemes (' ' :: s) := by
  have hname : name (['m', 'e', 'd', 'i', 'a'].flatMap escapeNameChar ++ ' ' :: s) =
      ⟨['m', 'e', 'd', 'i', 'a'], true, ' ' :: s⟩ := name_flatMap_escapeNameChar (by decide) rfl
  have hescape : ['m', 'e', 'd', 'i', 'a'].flatMap escapeNameChar = ['m', 'e', 'd', 'i', 'a'] := by
    decide
  rw [hescape] at hname
  have htoken : token '@' (['m', 'e', 'd', 'i', 'a'] ++ ' ' :: s) =
      ⟨.atKeyword (text (name (['m', 'e', 'd', 'i', 'a'] ++ ' ' :: s)).value),
        (name (['m', 'e', 'd', 'i', 'a'] ++ ' ' :: s)).complete,
        (name (['m', 'e', 'd', 'i', 'a'] ++ ' ' :: s)).rest⟩ := rfl
  rw [hname] at htoken
  exact spelled_of_token htoken

/-- The values of a block for some media: its keyword, the values of the prelude but for blanks, and
a block with the values of its contents. -/
theorem values_media {m c : String} (hm : IsClosed m) (hc : IsClosed c)
    (hnone : ∀ v ∈ values c, v.isToken .curlyClose = false) :
    ∃ kw prelude o close, values ("@media " ++ m ++ " \x7b" ++ c ++ "\x7d") =
        .token kw :: (prelude ++ [.block o (values c) (some close)]) ∧
      kw.token = .atKeyword "media" ∧ o.token = .curlyOpen ∧
      bareValues prelude = bareValues (values m) := by
  have htext : ("@media " ++ m ++ " \x7b" ++ c ++ "\x7d").toList =
      '@' :: 'm' :: 'e' :: 'd' :: 'i' :: 'a' :: ' ' ::
        (m.toList ++ ' ' :: '\x7b' :: (c.toList ++ ['\x7d'])) := by
    simp [String.toList_append]
  obtain ⟨hwhole, hbare⟩ := space_cons hm.whole
  -- The space behind the prelude may end an escape there, so only the tokens are known.
  obtain ⟨sp, behind, ls, hsp, hsplit, hlexemes, htokens⟩ :=
    tokens_append hwhole (s := ' ' :: '\x7b' :: (c.toList ++ ['\x7d'])) rfl
  obtain ⟨blanks, hblanks, hbehind⟩ := lexemes_dropWhile_isSpace behind
  have hdrop : behind.dropWhile isSpace = '\x7b' :: (c.toList ++ ['\x7d']) := by
    rw [← List.dropWhile_append_of_pos hsp, ← hsplit]
    rfl
  have hblock : lexemes ('\x7b' :: (c.toList ++ ['\x7d'])) =
      ⟨.curlyOpen, ['\x7b'], true⟩ ::
        (lexemes c.toList ++ [⟨.curlyClose, ['\x7d'], true⟩]) := by
    rw [lexemes_cons_stop (t := .curlyOpen) rfl, lexemes_append hc.whole rfl rfl,
      lexemes_cons_stop (t := .curlyClose) rfl, lexemes_nil]
  have hprelude : bareLexemes (lexemes m.toList) = bareLexemes (ls ++ blanks) := by
    have hnil : bareLexemes blanks = [] := bareLexemes_of_blanks fun l hl => by
      rw [hblanks l hl]
      rfl
    rw [bareLexemes_append, hnil, List.append_nil, bareLexemes_eq_of_tokens htokens, hbare]
  obtain ⟨hclosed, hvalues⟩ := bareValues_nest hm.blocks hprelude
  have hbody : nest (⟨.curlyOpen, ['\x7b'], true⟩ ::
      (lexemes c.toList ++ [⟨.curlyClose, ['\x7d'], true⟩])) = [.block _ (values c) (some _)] :=
    nest_block rfl hc.blocks hnone
  refine ⟨⟨.atKeyword "media", ['@', 'm', 'e', 'd', 'i', 'a'], true⟩, nest (ls ++ blanks),
    ⟨.curlyOpen, ['\x7b'], true⟩, ⟨.curlyClose, ['\x7d'], true⟩, ?_, rfl, rfl, hvalues.symm⟩
  rw [values, htext, lexemes_media]
  rw [← List.cons_append, hlexemes, hbehind, hdrop, hblock, ← List.append_assoc,
    nest_cons_plain rfl, nest_append hclosed, hbody]

/-- Whether a value ends a rule shows on the bare values. -/
theorem isEnd_of_bareValues {us vs : List ComponentValue} (h : bareValues us = bareValues vs)
    (hvs : ∀ v ∈ vs, RawRule.isEnd v = false) : ∀ v ∈ us, RawRule.isEnd v = false := by
  have hbare (v : ComponentValue) : RawRule.isEnd v.bare = RawRule.isEnd v := by
    cases v <;> rfl
  intro v hv
  by_cases hblank : v.isBlank = true
  · cases v with
    | token l =>
      have hne : l.token ≠ .semicolon := fun heq => by
        rw [ComponentValue.isBlank, heq] at hblank
        cases hblank
      simpa [RawRule.isEnd, RawRule.isBraces, ComponentValue.isToken] using hne
    | block => cases hblank
  · have hmem : v.bare ∈ bareValues us :=
      List.mem_map_of_mem (List.mem_filter.mpr ⟨hv, by simpa using hblank⟩)
    rw [h] at hmem
    obtain ⟨u, hu, heq⟩ := List.mem_map.mp hmem
    rw [← hbare v, ← heq, hbare]
    exact hvs u (List.mem_filter.mp hu).1

end Css

namespace Rule

/-- The rules of two texts are those of the one and those of the other. -/
theorem parse_append {a : String} (ha : IsClosed a)
    (hended : RawRule.isEnded (values a) = true) (b : String) :
    (parse (a ++ b)).map unlocated = (parse a).map unlocated ++ (parse b).map unlocated := by
  rw [map_unlocated_parse, RawRule.rules_values_append ha hended, List.filterMap_append,
    map_unlocated_parse, map_unlocated_parse]

/-- The rules of a block for some media are those of the text in it. -/
theorem parse_media {m c : String} (hm : IsClosed m) (hc : IsClosed c)
    (hend : ∀ v ∈ values m, RawRule.isEnd v = false)
    (hnone : ∀ v ∈ values c, v.isToken .curlyClose = false) :
    (parse ("@media " ++ m ++ " \x7b" ++ c ++ "\x7d")).map unlocated =
      [media (MediaList.parse m) ((parse c).map unlocated)] := by
  obtain ⟨⟨kw, text, complete⟩, prelude, o, close, hvalues, rfl, ho, hprelude⟩ :=
    values_media hm hc hnone
  have hspans : RawRule.Spans (some "media") [.token ⟨.atKeyword "media", text, complete⟩] prelude
      (.block o (values c) (some close)) :=
    ⟨fun _ => rfl, isEnd_of_bareValues hprelude hend, by
      simp [RawRule.ends, RawRule.isEnd, RawRule.isBraces, ho]⟩
  have hlist : MediaList.ofValues prelude = MediaList.parse m := by
    rw [← MediaList.ofValues_bareValues, hprelude, MediaList.ofValues_bareValues, MediaList.parse]
  have hdrop : (values ("@media " ++ m ++ " \x7b" ++ c ++ "\x7d")).dropWhile RawRule.isGap =
      [.token ⟨.atKeyword "media", text, complete⟩] ++
        (prelude ++ [.block o (values c) (some close)]) := by
    rw [hvalues]
    rfl
  have hmeaning : meaning? (.ofParts (some "media") prelude (.block o (values c) (some close))) =
      some (media (MediaList.parse m) ((parse c).map unlocated)) := by
    have hword : Ascii.eqIgnoreCase "media" "media" = true := by decide
    simp only [meaning?, ofRaw?, RawRule.ofParts, RawRule.body?]
    rw [if_pos hword, Option.map_some, unlocated, unlocatedAll_eq_map, hlist, parse]
  rw [map_unlocated_parse, RawRule.rules_of_spans hdrop hspans, RawRule.rules_nil,
    List.filterMap_cons, hmeaning]
  rfl

end Rule

/-- Rule lists are put together from their parts, but for the places the rules were read at. A text
whose last rule is closed stands before another one, and a closed text in a block for some media,
with the rules that it has by itself. -/
theorem Stylesheet.parse_composed (base : Option Url) :
    (∀ a b, IsClosed a → RawRule.isEnded (values a) = true →
      (parse base (a ++ b)).rules.map Rule.unlocated =
        (parse base a).rules.map Rule.unlocated ++ (parse base b).rules.map Rule.unlocated) ∧
    ∀ m c, IsClosed m → IsClosed c → (∀ v ∈ values m, RawRule.isEnd v = false) →
      (∀ v ∈ values c, v.isToken .curlyClose = false) →
      (parse base ("@media " ++ m ++ " \x7b" ++ c ++ "\x7d")).rules.map Rule.unlocated =
        [.media (MediaList.parse m) ((parse base c).rules.map Rule.unlocated)] :=
  ⟨fun _ b ha hended => Rule.parse_append ha hended b,
    fun _ _ hm hc hend hnone => Rule.parse_media hm hc hend hnone⟩

theorem Stylesheet.parse_composed_print :
    (IsClosed "p \x7b color: red \x7d ::-moz-bogus \x7b\x7d" ∧
      RawRule.isEnded (values "p \x7b color: red \x7d ::-moz-bogus \x7b\x7d") = true ∧
      (parse none ("p \x7b color: red \x7d ::-moz-bogus \x7b\x7d" ++ "div \x7b\x7d")).rules.map
          Rule.unlocated =
        (parse none "p \x7b color: red \x7d ::-moz-bogus \x7b\x7d").rules.map Rule.unlocated ++
          (parse none "div \x7b\x7d").rules.map Rule.unlocated) ∧
    IsClosed "print" ∧ IsClosed "div \x7b\x7d" ∧ (∀ v ∈ values "print", RawRule.isEnd v = false) ∧
      (∀ v ∈ values "div \x7b\x7d", v.isToken .curlyClose = false) ∧
      (parse none ("@media " ++ "print" ++ " \x7b" ++ "div \x7b\x7d" ++ "\x7d")).rules.map
          Rule.unlocated =
        [.media (MediaList.parse "print") ((parse none "div \x7b\x7d").rules.map
          Rule.unlocated)] := by
  have ha : IsClosed "p \x7b color: red \x7d ::-moz-bogus \x7b\x7d" := by decide +kernel
  have hended : RawRule.isEnded (values "p \x7b color: red \x7d ::-moz-bogus \x7b\x7d") = true := by
    decide +kernel
  have hm : IsClosed "print" := by decide +kernel
  have hc : IsClosed "div \x7b\x7d" := by decide +kernel
  have hend : ∀ v ∈ values "print", RawRule.isEnd v = false := by decide +kernel
  have hnone : ∀ v ∈ values "div \x7b\x7d", v.isToken .curlyClose = false := by decide +kernel
  exact ⟨⟨ha, hended, (parse_composed none).1 _ _ ha hended⟩, hm, hc, hend, hnone,
    (parse_composed none).2 _ _ hm hc hend hnone⟩

end StyleTree
