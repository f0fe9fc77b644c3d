import PageComponent.Number.Literal
import PageComponent.Text.Blank

/-!
# Integers in settings

A text is an integer if it holds digits, with a sign in front or not, single underscores between
two digits and space around it.
-/

namespace PageComponent.Text

/-- The digits of a text in which single underscores stand between digits. -/
def groupedDigits? : List Char → Option (List Char)
  | [] => none
  | [c] => if isDigit c then some [c] else none
  | c :: '_' :: d :: cs => if isDigit c then (groupedDigits? (d :: cs)).map (c :: ·) else none
  | c :: cs => if isDigit c then (groupedDigits? cs).map (c :: ·) else none

/-- The information separators are blank but no space around a number. -/
def isNumberSpace (c : Char) : Bool :=
  isBlank c && !(0x1C ≤ c.toNat && c.toNat ≤ 0x1F)

def integer? (cs : List Char) : Option Int := do
  let body := ((cs.dropWhile isNumberSpace).reverse.dropWhile isNumberSpace).reverse
  let (negative, digits) := takeSign body
  let n : Int ← digitsValue? (← groupedDigits? digits)
  return if negative then -n else n

end PageComponent.Text
