import StyleTree.Sheet.Rule

/-!
# The rules that apply for a medium

The search for the style rules of a sheet keeps the lists of rules in which it stands. It finds what
a descent into the sheet visits that enters a block exactly if its media hold: `effectiveOf`.
-/

namespace StyleTree

namespace Rule

mutual

/-- The style rules within a rule that apply for the medium, in the order of the text. -/
def effective (medium : String) : Rule → List StyleRule
  | style rule => [rule]
  | media list rules => if list.holds medium then effectiveOf medium rules else []

/-- The style rules within a list of rules that apply for the medium. -/
def effectiveOf (medium : String) : List Rule → List StyleRule
  | [] => []
  | r :: rs => effective medium r ++ effectiveOf medium rs

end

/-- The lists in which the search stands are descended into one after the other. -/
theorem flatMap_effectiveOf (medium : String) (lists : List (List Rule)) :
    lists.flatMap (effectiveOf medium) =
      match nextEffective? medium lists with
      | some (rule, rest) => rule :: rest.flatMap (effectiveOf medium)
      | none => [] := by
  fun_induction nextEffective? medium lists with
  | case1 => rfl
  | case2 around ih =>
    rw [List.flatMap_cons, effectiveOf]
    exact ih
  | case3 rule rules around =>
    rw [List.flatMap_cons, effectiveOf, effective]
    rfl
  | case4 list inner rules around hholds ih =>
    rw [← ih]
    simp [effectiveOf, effective, hholds]
  | case5 list inner rules around hholds ih =>
    rw [← ih]
    simp [effectiveOf, effective, hholds]

theorem effectiveWithin_eq (medium : String) (lists : List (List Rule)) :
    effectiveWithin medium lists = lists.flatMap (effectiveOf medium) := by
  fun_induction effectiveWithin medium lists with
  | case1 lists rule rest hnext ih => rw [flatMap_effectiveOf medium lists, hnext, ih]
  | case2 lists hnext => rw [flatMap_effectiveOf medium lists, hnext]

end Rule

theorem Stylesheet.effectiveRules_eq (sheet : Stylesheet) (medium : String) :
    sheet.effectiveRules medium = Rule.effectiveOf medium sheet.rules := by
  rw [effectiveRules, Rule.effectiveWithin_eq, List.flatMap_singleton]

end StyleTree
