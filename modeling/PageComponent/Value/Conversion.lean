import PageComponent.Number.Format
import PageComponent.Number.Literal
import PageComponent.Text.Blank
import PageComponent.Value.Basic

/-!
# Conversions

What a value counts as where a condition, a number or a text is wanted. Only a number too large
for the binary format fails: it has no text and no truth.
-/

namespace PageComponent

namespace Text

/-- The number that a text spells after trimming; a blank text spells zero. -/
def toNumber (text : List Char) : Number :=
  let cs := trim text
  if cs.isEmpty then .int 0
  else match readRadix? cs with
    | some n => .int n
    | none =>
      let (negative, body) := takeSign cs
      if body = "Infinity".toList then .float (.infinite negative)
      else match readDecimal? body with
        | none => .nan
        | some literal =>
          let x := literal.value negative
          if literal.isInteger && x.isFinite then
            let n : Int := (digitsValue? literal.whole).getD 0
            .int (if negative then -n else n)
          else .float x

end Text

namespace Number

/-- Integers are written out below `10 ^ 21` and like binary numbers from there on. -/
def toText : Number → Except TooLarge String
  | .int n =>
    if n.natAbs < Nat.pow 10 21 then .ok (toString n)
    else return NumberFormat.plain.write (← toBinary (.int n))
  | .float x => .ok (NumberFormat.plain.write x)

end Number

namespace Value

def toNumber : Value → Number
  | .undefined => .nan
  | .null => .int 0
  | .bool b => .int (if b then 1 else 0)
  | .number n => n
  | .text s => Text.toNumber s.toList
  | .list _ | .mapping _ => .nan

/-- Lists and mappings are true even when empty. -/
def isTruthy : Value → Except TooLarge Bool
  | .null | .undefined => .ok false
  | .bool b => .ok b
  | .number n => if n.isZero then .ok false else return !(← n.isNaN)
  | .text s => .ok (s ≠ "")
  | .list _ | .mapping _ => .ok true

mutual

def toText : Value → Except TooLarge String
  | .undefined => .ok "undefined"
  | .null => .ok "null"
  | .bool b => .ok (if b then "true" else "false")
  | .number n => n.toText
  | .text s => .ok s
  | .list items => return ",".intercalate (← itemTexts items)
  | .mapping _ => .ok "[object Object]"

/-- Nullish items of a list leave their place empty. -/
def itemTexts : List Value → Except TooLarge (List String)
  | [] => .ok []
  | item :: rest => do
    let text ← if item.isNullish then .ok "" else item.toText
    return text :: (← itemTexts rest)

end

/-- The text shown in a page, where a nullish value shows nothing. -/
def display (v : Value) : Except TooLarge String :=
  if v.isNullish then .ok "" else v.toText

end Value

end PageComponent
