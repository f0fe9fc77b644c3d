import PageComponent.Number.Basic
import PageComponent.Text.Quoted

/-!
# Failures of evaluation
-/

namespace PageComponent

inductive EvalError where
  /-- A number too large for the binary format. -/
  | tooLarge
  /-- An index of digit-like characters, not all of which have a decimal value. -/
  | indexWithoutValue
  | divisionByZero
  | moduloByZero
  /-- Access to a property of null or undefined; both are given by their texts. -/
  | readOfNullish (target key : String)
  | oneArgument (function : String)
  | unknownFunction (name : String)
deriving DecidableEq

instance : MonadLift (Except TooLarge) (Except EvalError) where
  monadLift x := x.mapError fun _ => .tooLarge

namespace EvalError

def message : EvalError → String
  | tooLarge => "Number too large"
  | indexWithoutValue => "Index without a value"
  | divisionByZero => "Division by zero"
  | moduloByZero => "Modulo by zero"
  | readOfNullish target key =>
    "Cannot read properties of " ++ target ++ " (reading " ++ quoted key ++ ")"
  | oneArgument function => function ++ "() takes exactly 1 argument"
  | unknownFunction name => "Unknown function: " ++ name ++ "()"

end EvalError

end PageComponent
