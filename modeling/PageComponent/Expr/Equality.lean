import PageComponent.Expr.Place
import PageComponent.Value.Conversion

/-!
# Equality

Strict equality holds only within a kind, loose equality first brings its operands to one. The
conversions go one way, from booleans and objects to numbers and texts, so they come to an end.
-/

namespace PageComponent

namespace Located

def strictEquals (a b : Located) : Bool :=
  match a.value, b.value with
  | .null, .null | .undefined, .undefined => true
  | .bool x, .bool y => x == y
  | .number x, .number y => x.equal y
  | .text x, .text y => x == y
  | .list _, .list _ | .list _, .mapping _ | .mapping _, .list _ | .mapping _, .mapping _ =>
    sameObject a b
  | _, _ => false

/-- Loose equality of numbers and texts. -/
def equalsPrimitive : Value → Value → Bool
  | .number x, .number y => x.equal y
  | .text x, .text y => x == y
  | .number x, .text y => x.equal (Text.toNumber y.toList)
  | .text x, .number y => (Text.toNumber x.toList).equal y
  | _, _ => false

/-- What loose equality takes an operand for beside one of another kind. -/
def toPrimitive : Value → Except TooLarge Value
  | .bool b => .ok (Value.int (if b then 1 else 0))
  | .list items => return .text (← (Value.list items).toText)
  | .mapping fields => return .text (← (Value.mapping fields).toText)
  | v => .ok v

def looseEquals (a b : Located) : Except TooLarge Bool := do
  if a.value.kind = b.value.kind then
    return strictEquals a b
  else if a.value.isNullish || b.value.isNullish then
    return a.value.isNullish && b.value.isNullish
  else
    return equalsPrimitive (← toPrimitive a.value) (← toPrimitive b.value)

end Located

end PageComponent
