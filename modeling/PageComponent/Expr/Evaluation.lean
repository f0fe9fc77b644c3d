import PageComponent.Expr.Basic
import PageComponent.Expr.Equality
import PageComponent.Expr.Member
import PageComponent.Expr.Parser

/-!
# Evaluation

The value of an expression over parameters. A parameter that is not there is undefined. The
operators `&&` and `||` give the operand that decides and evaluate the second one only if the first
does not.
-/

namespace PageComponent

def Literal.toValue : Literal → Value
  | .null => .null
  | .bool b => .bool b
  | .int n => Value.int n
  | .float x => Value.float x
  | .text s => .text s

namespace Value

def isTextual (v : Value) : Bool :=
  v.kind = .text || v.kind = .object

/-- The sum of numbers; beside a text or an object, the concatenation of texts. -/
def plus (a b : Value) : Except EvalError Value := do
  if a.isTextual || b.isTextual then
    return .text ((← a.toText) ++ (← b.toText))
  else return .number (← a.toNumber.add b.toNumber)

/-- The order of two values: of texts by code points, else of their numbers. -/
def order? (a b : Value) : Except EvalError (Option Ordering) := do
  match a, b with
  | .text s, .text t => return some (compare s t)
  | _, _ =>
    let x := a.toNumber
    let y := b.toNumber
    if ← x.isNaN then return none
    if ← y.isNaN then return none
    return x.compare? y

def compareBy (test : Ordering → Bool) (a b : Value) : Except EvalError Value := do
  match ← a.order? b with
  | some o => return .bool (test o)
  | none => return .bool false

def divide (a b : Number) : Except EvalError Value := do
  if b.isZero then throw .divisionByZero
  return .number (← a.div b)

def remainder (a b : Number) : Except EvalError Value := do
  if b.isZero then throw .moduloByZero
  return .number (← a.rem b)

end Value

namespace BinaryOp

/-- Whether the first operand alone is the result. -/
def decides (op : BinaryOp) (a : Value) : Except TooLarge Bool := do
  match op with
  | .and => return !(← a.isTruthy)
  | .or => a.isTruthy
  | _ => return false

/-- The result on two operands of which the first one alone did not decide. -/
def apply (op : BinaryOp) (a b : Located) : Except EvalError Located := do
  match op with
  | .and | .or => return b
  | .eq => return .computed (.bool (← a.looseEquals b))
  | .ne => return .computed (.bool !(← a.looseEquals b))
  | .strictEq => return .computed (.bool (a.strictEquals b))
  | .strictNe => return .computed (.bool !(a.strictEquals b))
  | .lt => return .computed (← a.value.compareBy (·.isLT) b.value)
  | .gt => return .computed (← a.value.compareBy (·.isGT) b.value)
  | .le => return .computed (← a.value.compareBy (·.isLE) b.value)
  | .ge => return .computed (← a.value.compareBy (·.isGE) b.value)
  | .add => return .computed (← a.value.plus b.value)
  | .sub => return .computed (.number (← a.value.toNumber.sub b.value.toNumber))
  | .mul => return .computed (.number (← a.value.toNumber.mul b.value.toNumber))
  | .div => return .computed (← Value.divide a.value.toNumber b.value.toNumber)
  | .rem => return .computed (← Value.remainder a.value.toNumber b.value.toNumber)

end BinaryOp

namespace UnaryOp

def apply (op : UnaryOp) (v : Value) : Except EvalError Value := do
  match op with
  | .not => return .bool !(← v.isTruthy)
  | .neg => return .number v.toNumber.neg
  | .pos => return .number v.toNumber

end UnaryOp

/-! ## Functions -/

namespace Number

/-- Not-a-number if one of the numbers is, else the first that no other one betters. -/
def extreme (better : Number → Number → Bool) (start : Number) (ns : List Number) :
    Except TooLarge Number := do
  if ← ns.anyM isNaN then return nan
  match ns with
  | [] => return start
  | n :: ns => return ns.foldl (fun best n => if better n best then n else best) n

end Number

def applyFunction (name : String) (arguments : List Value) : Except EvalError Value := do
  let numbers := arguments.map Value.toNumber
  if name = "min" then
    return .number (← Number.extreme Number.less (.float (.infinite false)) numbers)
  else if name = "max" then
    return .number (← Number.extreme (fun a b => b.less a) (.float (.infinite true)) numbers)
  else if name = "abs" then
    match numbers with
    | [n] => return .number n.abs
    | _ => throw (.oneArgument name)
  else if name = "round" then
    match numbers with
    | [n] => return .number (← n.round)
    | _ => throw (.oneArgument name)
  else throw (.unknownFunction name)

/-! ## Expressions -/

namespace Expr

/-- The members along plain names. -/
def follow (start : Located) (names : List String) : Except EvalError Located :=
  names.foldlM (fun target name => target.member (.text name)) start

mutual

def evaluate (params : Params) : Expr → Except EvalError Located
  | .literal l => .ok (.computed l.toValue)
  | .undefined => .ok .undefined
  | .ref parameter names => follow (.ofParameter params parameter) names
  | .member target key => do
    let t ← target.evaluate params
    t.member (← key.evaluate params).value
  | .binary op left right => do
    let a ← left.evaluate params
    if ← op.decides a.value then return a
    op.apply a (← right.evaluate params)
  | .unary op operand => do
    return .computed (← op.apply (← operand.evaluate params).value)
  | .conditional test consequent alternate => do
    if ← (← test.evaluate params).value.isTruthy then consequent.evaluate params
    else alternate.evaluate params
  | .call function arguments => do
    return .computed (← applyFunction function ((← evaluateAll params arguments).map (·.value)))

def evaluateAll (params : Params) : List Expr → Except EvalError (List Located)
  | [] => .ok []
  | e :: es => do
    let v ← e.evaluate params
    return v :: (← evaluateAll params es)

end

/-- The value of a source, undefined if it cannot be parsed or evaluated. -/
def valueOf (params : Params) (source : String) : Value :=
  match parse (trimmed source) with
  | .ok e =>
    match e.evaluate params with
    | .ok v => v.value
    | .error _ => .undefined
  | .error _ => .undefined

/-- Whether a condition holds; one that fails does not. -/
def holds (params : Params) (source : String) : Except TooLarge Bool :=
  (valueOf params source).isTruthy

end Expr

end PageComponent
