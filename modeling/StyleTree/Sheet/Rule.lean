import StyleTree.Css.RuleList
import StyleTree.Css.Declaration
import StyleTree.Media
import StyleTree.Selector.Parser
import StyleTree.Url.Basic

/-!
# Rules of style sheets

Style rules and the blocks that limit rules to some media. A rule that cannot be read is left out,
as is every rule with another keyword than `@media`.
-/

namespace StyleTree

open Css

/-- Selectors, and what holds for the elements that they select. -/
structure StyleRule where
  selectors : List Selector
  declarations : List Declaration
  /-- Where the selectors start. -/
  location : Location
deriving Inhabited

inductive Rule where
  | style (rule : StyleRule)
  | media (list : MediaList) (rules : List Rule)
deriving Inhabited

namespace Rule

/-! ## Reading -/

/-- The values start like the declaration of a custom property: with a name of two hyphens at least
and a colon. No rule may start so. -/
def startsLikeCustomProperty (vs : List ComponentValue) : Bool :=
  match ident? vs with
  | some (name, rest) => name.startsWith "--" && (skipBlank rest).head?.any (·.isToken .colon)
  | none => false

/-- The rule that a raw rule stands for. `inner` reads the rules inside a block. -/
def ofRaw? (inner : Location → List ComponentValue → List Rule) (r : RawRule) : Option Rule :=
  match r.keyword, r.body with
  | some name, some body =>
    if Ascii.eqIgnoreCase name "media" then
      some (.media (.ofValues r.prelude) (inner r.bodyStart body))
    else none
  | none, some body =>
    if startsLikeCustomProperty r.prelude then none
    else
      (Selector.ofValues? r.prelude).map fun selectors =>
        .style ⟨selectors, Declaration.ofValues body, r.start⟩
  | _, none => none

/-- The rules of a list in which blocks are nested less than `depth` deep. -/
def ofValues : Nat → Location → List ComponentValue → List Rule
  | 0, _, _ => []
  | depth + 1, start, vs => (RawRule.list start vs).filterMap (ofRaw? (ofValues depth))

/-- The rules of a style sheet. -/
def parse (s : String) : List Rule :=
  let vs := values s
  ofValues (depthOf vs + 1) .start vs

/-! ## The rules for a medium -/

/-- The next style rule that applies for the medium, and what comes after it. The search stands in
lists of rules, one within the other, and knows what is left of each, the innermost first. -/
def nextEffective? (medium : String) : List (List Rule) → Option (StyleRule × List (List Rule))
  | [] => none
  | [] :: around => nextEffective? medium around
  | (style rule :: rules) :: around => some (rule, rules :: around)
  | (media list inner :: rules) :: around =>
    if list.holds medium then nextEffective? medium (inner :: rules :: around)
    else nextEffective? medium (rules :: around)

/-- Less is left after a rule than before it. -/
theorem sizeOf_nextEffective? {medium : String} {rule : StyleRule} {lists rest : List (List Rule)}
    (h : nextEffective? medium lists = some (rule, rest)) : sizeOf rest < sizeOf lists := by
  fun_induction nextEffective? medium lists with
  | case1 => cases h
  | case2 around ih =>
    have := ih h
    simp only [List.cons.sizeOf_spec]
    omega
  | case3 rule rules around =>
    cases h
    simp only [List.cons.sizeOf_spec]
    omega
  | case4 list inner rules around _ ih | case5 list inner rules around _ ih =>
    have := ih h
    simp only [List.cons.sizeOf_spec, media.sizeOf_spec] at this ⊢
    omega

/-- The style rules within lists of rules, one within the other, that apply for the medium. -/
def effectiveWithin (medium : String) (lists : List (List Rule)) : List StyleRule :=
  match _h : nextEffective? medium lists with
  | some (rule, rest) => rule :: effectiveWithin medium rest
  | none => []
termination_by sizeOf lists
decreasing_by exact sizeOf_nextEffective? _h

end Rule

/-- A style sheet. -/
structure Stylesheet where
  rules : List Rule
  /-- What relative references inside the sheet resolve against. -/
  base : Option Url
deriving Inhabited

namespace Stylesheet

def parse (base : Option Url) (s : String) : Stylesheet :=
  ⟨Rule.parse s, base⟩

/-- The style rules that apply for the medium, in the order of the text. -/
def effectiveRules (sheet : Stylesheet) (medium : String) : List StyleRule :=
  Rule.effectiveWithin medium [sheet.rules]

end Stylesheet

end StyleTree
