import PageComponent.Number.Shortest
import PageComponent.Text.Digit

/-!
# Number formats

A binary number is written with its shortest digits, positionally while the decimal point stays
within a range and with an exponent beyond it. What two notations may differ in is one record.
-/

namespace PageComponent

/-- Positional notation is used while the point lies between `leastPoint` and `greatestPoint`. -/
structure NumberFormat where
  leastPoint : Int
  greatestPoint : Int
  /-- Follows the digits of an integer written positionally. -/
  integerEnd : String
  /-- The least number of digits of an exponent. -/
  exponentWidth : Nat
  zero : String
  negativeZero : String
  nan : String
  infinity : String

namespace NumberFormat

/-- A binary number written so is never taken for an integer. -/
def precise : NumberFormat where
  leastPoint := -3
  greatestPoint := 16
  integerEnd := ".0"
  exponentWidth := 2
  zero := "0.0"
  negativeZero := "-0.0"
  nan := "nan"
  infinity := "inf"

/-- The notation of pages: `10.0` is written `10`, and zero has no sign. -/
def plain : NumberFormat where
  leastPoint := -5
  greatestPoint := 21
  integerEnd := ""
  exponentWidth := 1
  zero := "0"
  negativeZero := "0"
  nan := "NaN"
  infinity := "Infinity"

/-- The spelling of the unbounded numbers in data documents. -/
def document : NumberFormat :=
  { precise with nan := "NaN", infinity := "Infinity" }

def positional (f : NumberFormat) (digits : List Char) (point : Int) : List Char :=
  let k : Int := digits.length
  if k ≤ point then
    digits ++ List.replicate (point - k).toNat '0' ++ f.integerEnd.toList
  else if 0 < point then
    digits.take point.toNat ++ '.' :: digits.drop point.toNat
  else
    '0' :: '.' :: List.replicate (-point).toNat '0' ++ digits

def scientific (f : NumberFormat) (digits : List Char) (point : Int) : List Char :=
  let exponent := point - 1
  let mantissa := match digits with
    | [] => []
    | [d] => [d]
    | d :: ds => d :: '.' :: ds
  let sign := if exponent < 0 then '-' else '+'
  mantissa ++ 'e' :: sign :: Text.paddedDigits 10 f.exponentWidth exponent.natAbs

def layout (f : NumberFormat) (d : Decimal) : List Char :=
  if f.leastPoint ≤ d.point ∧ d.point ≤ f.greatestPoint then f.positional d.digits d.point
  else f.scientific d.digits d.point

def write (f : NumberFormat) : Binary → String
  | .nan => f.nan
  | .infinite s => if s then "-" ++ f.infinity else f.infinity
  | .finite s m e _ =>
    if m = 0 then (if s then f.negativeZero else f.zero)
    else
      let body := f.layout (.shortest m e)
      .ofList (if s then '-' :: body else body)

end NumberFormat

end PageComponent
