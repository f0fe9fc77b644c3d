import PageComponent.Text.Quoted

/-!
# Notices

What goes wrong without stopping the work is reported in a notice.
-/

namespace PageComponent

inductive Notice where
  | repeatedParameter (name : String)
  | emptyBackground (name : String)
  | styleFailure (scope : String)
  /-- The number is that of the render, counted from one. -/
  | renderFailure (number : Nat)
deriving DecidableEq

inductive Severity where
  | warning
  | error
deriving DecidableEq

namespace Notice

def severity : Notice → Severity
  | renderFailure _ => .error
  | _ => .warning

def message : Notice → String
  | repeatedParameter name =>
    "Duplicate parameter " ++ quoted name ++ " ignored; first declaration wins"
  | emptyBackground name => "Background parameter " ++ quoted name ++ " declares no options"
  | styleFailure scope => "LESS compile failed for cid-" ++ scope
  | renderFailure number => "Reactive render " ++ toString number ++ " failed"

end Notice

end PageComponent
