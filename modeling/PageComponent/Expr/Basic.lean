import PageComponent.Number.Binary

/-!
# Expressions

The syntax of the expressions that components write in tokens and directives.
-/

namespace PageComponent

inductive UnaryOp where
  | neg
  | pos
  | not
deriving DecidableEq

inductive BinaryOp where
  | add
  | sub
  | mul
  | div
  | rem
  | eq
  | ne
  | strictEq
  | strictNe
  | lt
  | gt
  | le
  | ge
  | and
  | or
deriving DecidableEq

/-- The levels of precedence of binary operators. -/
inductive Level where
  | or
  | and
  | equality
  | relational
  | additive
  | multiplicative
deriving DecidableEq

inductive Literal where
  | null
  | bool (b : Bool)
  | int (n : Nat)
  | float (x : Binary)
  | text (s : String)
deriving DecidableEq

inductive Expr where
  | literal (value : Literal)
  | undefined
  /-- A parameter and the names that plain dots lead on with. -/
  | ref (parameter : String) (names : List String)
  | member (target key : Expr)
  | binary (op : BinaryOp) (left right : Expr)
  | unary (op : UnaryOp) (operand : Expr)
  | conditional (test consequent alternate : Expr)
  | call (function : String) (arguments : List Expr)

namespace UnaryOp

def spelling : UnaryOp → String
  | neg => "-"
  | pos => "+"
  | not => "!"

end UnaryOp

namespace BinaryOp

def spelling : BinaryOp → String
  | add => "+"
  | sub => "-"
  | mul => "*"
  | div => "/"
  | rem => "%"
  | eq => "=="
  | ne => "!="
  | strictEq => "==="
  | strictNe => "!=="
  | lt => "<"
  | gt => ">"
  | le => "<="
  | ge => ">="
  | and => "&&"
  | or => "||"

end BinaryOp

namespace Expr

mutual

/-- The parameters that an expression names. -/
def parameters : Expr → List String
  | .literal _ | .undefined => []
  | .ref parameter _ => [parameter]
  | .member target key => target.parameters ++ key.parameters
  | .binary _ left right => left.parameters ++ right.parameters
  | .unary _ operand => operand.parameters
  | .conditional test consequent alternate =>
    test.parameters ++ consequent.parameters ++ alternate.parameters
  | .call _ arguments => argumentParameters arguments

def argumentParameters : List Expr → List String
  | [] => []
  | e :: es => e.parameters ++ argumentParameters es

end

end Expr

end PageComponent
