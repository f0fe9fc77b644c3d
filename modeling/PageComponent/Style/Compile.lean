import PageComponent.Less.Sheet
import PageComponent.Notice
import PageComponent.Style.Source

/-!
# Component styles

Styles without a scope are not compiled. Those that cannot be compiled are reported and left out.
-/

namespace PageComponent.Style

/-- Whether there are styles and a scope for them. -/
def isNeeded (styles : Option StyleTree) (cid : Option String) : Bool :=
  styles.any (!·.isEmpty) && cid.any (· ≠ "")

def compile (styles : Option StyleTree) (params : Params) (cid : Option String)
    (colours : List String) : Except TooLarge (String × List Notice) := do
  match styles, cid with
  | some styles, some cid =>
    if styles.isEmpty ∨ cid = "" then return ("", [])
    match Less.compile? (← source styles params cid colours) with
    | some css => return (css, [])
    | none => return ("", [.styleFailure cid])
  | _, _ => return ("", [])

end PageComponent.Style
