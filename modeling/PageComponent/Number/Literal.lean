import PageComponent.Number.Basic
import PageComponent.Text.Digit

/-!
# Decimal literals

A decimal literal has a whole part, an optional fraction and an optional exponent. Its digits may
be any decimal digits; its value is the nearest binary number. There may be any number of digits: a
limit on the length of the integers that are read or written is left out.
-/

namespace PageComponent

structure DecimalLiteral where
  whole : List Char
  /-- The digits after the point, if there is a point. -/
  fraction : Option (List Char)
  exponent : Option Int
deriving DecidableEq

namespace DecimalLiteral

def digits (d : DecimalLiteral) : List Char :=
  d.whole ++ d.fraction.getD []

def isInteger (d : DecimalLiteral) : Bool :=
  d.fraction.isNone && d.exponent.isNone

def value (d : DecimalLiteral) (negative : Bool) : Binary :=
  .ofDecimal negative ((Text.digitsValue? d.digits).getD 0)
    (d.exponent.getD 0 - (d.fraction.getD []).length)

end DecimalLiteral

namespace Text

def takeSign : List Char → Bool × List Char
  | '-' :: cs => (true, cs)
  | '+' :: cs => (false, cs)
  | cs => (false, cs)

/-- An exponent that fills the rest of the text; no text is no exponent. -/
def readExponent? : List Char → Option (Option Int)
  | [] => some none
  | c :: cs =>
    if c = 'e' ∨ c = 'E' then
      let (negative, ds) := takeSign cs
      if ds.isEmpty then none
      else (digitsValue? ds).map (fun n => some (if negative then -n else n))
    else none

/-- A literal without sign that fills the text. -/
def readDecimal? (cs : List Char) : Option DecimalLiteral :=
  let whole := cs.takeWhile isDigit
  match cs.dropWhile isDigit with
  | '.' :: rest =>
    let fraction := rest.takeWhile isDigit
    if whole.isEmpty ∧ fraction.isEmpty then none
    else (readExponent? (rest.dropWhile isDigit)).map (⟨whole, some fraction, ·⟩)
  | rest =>
    if whole.isEmpty then none else (readExponent? rest).map (⟨whole, none, ·⟩)

/-- A number that a zero and the letter of its radix introduce. -/
def readRadix? : List Char → Option Nat
  | '0' :: letter :: ds =>
    let radix :=
      if letter = 'x' ∨ letter = 'X' then 16
      else if letter = 'o' ∨ letter = 'O' then 8
      else if letter = 'b' ∨ letter = 'B' then 2
      else 0
    if ds.isEmpty then none else radixValue? radix ds
  | _ => none

end Text

end PageComponent
