/-!
# Replacement
-/

namespace PageComponent.Text

/-- The text with every occurrence of `pattern`, which is not empty, replaced from the left. -/
def replaceAll (pattern replacement : List Char) : List Char → List Char
  | [] => []
  | c :: cs =>
    if pattern.isPrefixOf (c :: cs) then
      replacement ++ replaceAll pattern replacement (cs.drop (pattern.length - 1))
    else c :: replaceAll pattern replacement cs
termination_by cs => cs.length
decreasing_by
  all_goals simp only [List.length_cons, List.length_drop]; omega

end PageComponent.Text
