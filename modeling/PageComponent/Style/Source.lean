import PageComponent.Style.Fold
import PageComponent.Style.Printer

/-!
# Style sources

The source of a style sheet defines the variables and puts the style tree into a block of the
component's own class.
-/

namespace PageComponent.Style

def isIdentStart (c : Char) : Bool :=
  c.isAlpha || c == '_'

def isIdentPart (c : Char) : Bool :=
  c.isAlphanum || c == '_' || c == '-'

/-- Whether a variable may have the name: an optional dash, a letter or underscore, and more
characters of identifiers. A line end may follow. -/
def isVariableName (name : String) : Bool :=
  let body := dropLineEnd name.toList
  match if body.head? = some '-' then body.drop 1 else body with
  | c :: cs => isIdentStart c && cs.all isIdentPart
  | [] => false

def variableLine (entry : String × String) : String :=
  "@" ++ entry.1 ++ ": " ++ entry.2 ++ ";\n"

def source (styles : StyleTree) (params : Params) (cid : String) (colours : List String) :
    Except TooLarge String := do
  let vars := (← variablesOf params colours).filter fun entry => isVariableName entry.1
  let body ← print (foldFields vars styles)
  return String.join (vars.map variableLine) ++ ".cid-" ++ cid ++ " \x7b " ++ body ++ " \x7d"

end PageComponent.Style
