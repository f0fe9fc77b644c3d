/-!
# Explanations

An error that a user can mend is explained by a message and by where it arose.
-/

namespace PageComponent

structure Context where
  file : String
  /-- A line, or the name of a setting. -/
  detail : Option String := none
deriving DecidableEq

structure Explanation where
  message : String
  context : Option Context := none
deriving DecidableEq

def Context.text (c : Context) : String :=
  match c.detail with
  | some detail => c.file ++ " (" ++ detail ++ ")"
  | none => c.file

/-- The context, if there is one, stands on a line of its own in front of the message. -/
def Explanation.text (e : Explanation) : String :=
  match e.context with
  | some context => context.text ++ "\n" ++ e.message
  | none => e.message

end PageComponent
