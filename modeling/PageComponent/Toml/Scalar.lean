import PageComponent.Number.Literal
import PageComponent.Toml.Value

/-!
# Truth values, numbers and moments

Scalars at the front of a text, each with its length. A single underscore may stand between two
digits of a number.
-/

namespace PageComponent.Toml

/-- The length of the further digits of a number, with the underscores among them. -/
def moreDigits (isDigit : Char → Bool) : List Char → Nat
  | '_' :: d :: cs => if isDigit d then moreDigits isDigit cs + 2 else 0
  | d :: cs => if isDigit d then moreDigits isDigit cs + 1 else 0
  | [] => 0

/-- The length of the digits at the front, with the underscores among them. -/
def digitSpan (isDigit : Char → Bool) : List Char → Nat
  | d :: cs => if isDigit d then moreDigits isDigit cs + 1 else 0
  | [] => 0

def fractionSpan : List Char → Nat
  | '.' :: cs =>
    let n := digitSpan Char.isDigit cs
    if n = 0 then 0 else n + 1
  | _ => 0

/-- The length of a sign at the front. -/
def signSpan : List Char → Nat
  | c :: _ => if c = '+' ∨ c = '-' then 1 else 0
  | [] => 0

def exponentSpan : List Char → Nat
  | c :: cs =>
    if c = 'e' ∨ c = 'E' then
      let sign := signSpan cs
      let n := digitSpan Char.isDigit (cs.drop sign)
      if n = 0 then 0 else n + sign + 1
    else 0
  | [] => 0

/-- The length of the whole part; only zero itself begins with a zero. -/
def wholeSpan : List Char → Nat
  | '0' :: _ => 1
  | cs => digitSpan Char.isDigit cs

def withoutUnderscores (cs : List Char) : List Char :=
  cs.filter (· != '_')

def radixOf (letter : Char) : Nat :=
  if letter = 'x' then 16 else if letter = 'o' then 8 else if letter = 'b' then 2 else 0

/-- An integer that a zero and the letter of its radix introduce. -/
def readRadix? : List Char → Option (Number × Nat)
  | '0' :: letter :: cs => do
    let radix := radixOf letter
    let n := digitSpan (fun c => (Text.radixDigit? radix c).isSome) cs
    if n = 0 then none
    else
      let value ← Text.radixValue? radix (withoutUnderscores (cs.take n))
      return (.int value, n + 2)
  | _ => none

/-- A decimal number; with a fraction or an exponent it is a binary one. -/
def readDecimal? (cs : List Char) : Option (Number × Nat) := do
  let sign := signSpan cs
  let whole := wholeSpan (cs.drop sign)
  if whole = 0 then none
  else
    let fraction := fractionSpan (cs.drop (sign + whole))
    let n := sign + whole + fraction + exponentSpan (cs.drop (sign + whole + fraction))
    let (negative, digits) := Text.takeSign (withoutUnderscores (cs.take n))
    let d ← Text.readDecimal? digits
    if d.isInteger then
      let m : Int ← Text.digitsValue? d.whole
      return (.int (if negative then -m else m), n)
    else return (.float (d.value negative), n)

/-- The numbers that have no digits. -/
def readWord? (cs : List Char) : Option (Number × Nat) :=
  let sign := signSpan cs
  let negative := cs.head? = some '-'
  let word := (cs.drop sign).take 3
  if word = ['i', 'n', 'f'] then some (.float (.infinite negative), sign + 3)
  else if word = ['n', 'a', 'n'] then some (.nan, sign + 3)
  else none

def readNumber? (cs : List Char) : Option (Number × Nat) :=
  (readRadix? cs).or ((readDecimal? cs).or (readWord? cs))

def readScalar? (cs : List Char) : Option (Value × Nat) :=
  if "true".toList.isPrefixOf cs then some (.bool true, 4)
  else if "false".toList.isPrefixOf cs then some (.bool false, 5)
  else match Moment.read? cs with
    | some (m, n) => some (.moment m, n)
    | none => (readNumber? cs).map fun (a, n) => (.number a, n)

end PageComponent.Toml
