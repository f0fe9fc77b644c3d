import PageComponent.Expr.Evaluation

/-!
# Substitution

A token is an expression between doubled braces. It holds no closing brace and is not empty.
-/

namespace PageComponent

/-- A stretch of text: a character as it is, or the source of a token. -/
inductive Piece where
  | plain (c : Char)
  | token (source : List Char)
deriving DecidableEq

namespace Piece

/-- The source of the token that `cs` begins with behind its opening braces. -/
def readToken? (cs : List Char) : Option (List Char) :=
  let source := cs.takeWhile (· != '\x7d')
  if source ≠ [] ∧ (cs.drop source.length).take 2 = ['\x7d', '\x7d'] then some source else none

def ofChars (cs : List Char) : List Piece :=
  match cs with
  | [] => []
  | c :: r =>
    if c = '\x7b' ∧ r.head? = some '\x7b' then
      match readToken? (r.drop 1) with
      | some source => .token source :: ofChars (r.drop (source.length + 3))
      | none => .plain c :: ofChars r
    else .plain c :: ofChars r
termination_by cs.length
decreasing_by
  all_goals simp only [List.length_cons, List.length_drop]; omega

def expand (params : Params) : Piece → Except TooLarge (List Char)
  | .plain c => .ok [c]
  | .token source => return (← (Expr.valueOf params (.ofList source)).display).toList

end Piece

/-- The text with every token replaced by the text of its value. -/
def substitute (params : Params) (text : String) : Except TooLarge String := do
  return .ofList (← (Piece.ofChars text.toList).mapM (Piece.expand params)).flatten

end PageComponent
