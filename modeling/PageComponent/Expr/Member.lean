import PageComponent.Expr.Error
import PageComponent.Expr.Place
import PageComponent.Text.Digit
import PageComponent.Value.Conversion

/-!
# Member access

A mapping has its fields, a list and a text have items and a length. What is not there is
undefined; only null and undefined have no members at all.
-/

namespace PageComponent

/-- The index that a name is, if it looks like one: digits without a leading zero. -/
def memberIndex? (name : String) : Except EvalError (Option Nat) :=
  let cs := name.toList
  if cs ≠ [] ∧ cs.all Text.isDigitLike ∧ (name = "0" ∨ cs.head? ≠ some '0') then
    match Text.digitsValue? cs with
    | some i => .ok (some i)
    | none => .error .indexWithoutValue
  else .ok none

namespace Located

/-- The member of a list or a text, given its length and its items. -/
def itemMember (name : String) (length : Nat) (item? : Nat → Option Located) :
    Except EvalError Located :=
  if name = "length" then .ok (computed (Value.int length))
  else do
    match ← memberIndex? name with
    | some i => return (item? i).getD undefined
    | none => return undefined

def member (target : Located) (key : Value) : Except EvalError Located := do
  let name ← key.toText
  match target.value with
  | .null => throw (.readOfNullish "null" name)
  | .undefined => throw (.readOfNullish "undefined" name)
  | .mapping fields =>
    match Entries.get? fields name with
    | some v => return target.child (.key name) v
    | none => return undefined
  | .list items =>
    itemMember name items.length fun i => items[i]?.map (target.child (.index i))
  | .text s =>
    let cs := s.toList
    itemMember name cs.length fun i => cs[i]?.map fun c => computed (.text (.singleton c))
  | .bool _ | .number _ => return undefined

end Located

end PageComponent
