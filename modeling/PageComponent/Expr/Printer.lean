import PageComponent.Expr.Basic
import PageComponent.Number.Format
import PageComponent.Text.Quoted

/-!
# Printing expressions

Every binary operation and every conditional is put in parentheses, so the text shows how the
expression was read.
-/

namespace PageComponent

def Literal.print : Literal → String
  | .null => "null"
  | .bool b => if b then "true" else "false"
  | .int n => toString n
  | .float x => NumberFormat.precise.write x
  | .text s => quoted s

namespace Expr

mutual

def print : Expr → String
  | .literal value => value.print
  | .undefined => "undefined"
  | .ref parameter names => ".".intercalate (parameter :: names)
  | .member target key => target.print ++ "[" ++ key.print ++ "]"
  | .binary op left right =>
    "(" ++ left.print ++ " " ++ op.spelling ++ " " ++ right.print ++ ")"
  | .unary op operand => op.spelling ++ operand.print
  | .conditional test consequent alternate =>
    "(" ++ test.print ++ " ? " ++ consequent.print ++ " : " ++ alternate.print ++ ")"
  | .call function arguments =>
    function ++ "(" ++ ", ".intercalate (printArguments arguments) ++ ")"

def printArguments : List Expr → List String
  | [] => []
  | e :: es => e.print :: printArguments es

end

end Expr

end PageComponent
