import PageComponent.Less.Item
import PageComponent.Text.Digit
import PageComponent.Text.Letter
import PageComponent.Entries

/-!
# Values of declarations

Variables are replaced by their values, hexadecimal colours are written with six small digits, a
comma is followed by one space and other blanks shrink to one. Texts in quotes stay as they are.
-/

namespace PageComponent.Less

/-- A stretch of a value. -/
inductive Stretch where
  | quoted (cs : List Char)
  | variable (name : String)
  | colour (digits : List Char)
  | comma
  | blank
  | plain (c : Char)
deriving DecidableEq

namespace Stretch

def isNamePart (c : Char) : Bool :=
  Text.isWordChar c || c == '-'

def isHexDigit (c : Char) : Bool :=
  (Text.radixDigit? 16 c).isSome

/-- The stretch at the front of `c :: cs` and the number of characters of `cs` in it. -/
def read (c : Char) (cs : List Char) : Stretch × Nat :=
  if c = '"' ∨ c = '\'' then
    let body := cs.takeWhile (· != c)
    (.quoted (c :: cs.take (body.length + 1)), body.length + 1)
  else if c = '@' then
    let name := cs.takeWhile isNamePart
    if name = [] then (.plain c, 0) else (.variable (.ofList name), name.length)
  else if c = '#' then
    let digits := cs.takeWhile isNamePart
    if [3, 4, 6, 8].contains digits.length ∧ digits.all isHexDigit then
      (.colour digits, digits.length)
    else (.plain c, 0)
  else if c = ',' then (.comma, (cs.takeWhile Text.isBlank).length)
  else if Text.isBlank c then (.blank, (cs.takeWhile Text.isBlank).length)
  else (.plain c, 0)

def ofChars (cs : List Char) : List Stretch :=
  match cs with
  | [] => []
  | c :: r =>
    let (s, n) := read c r
    s :: ofChars (r.drop n)
termination_by cs.length
decreasing_by
  simp only [List.length_cons, List.length_drop]; omega

/-- A blank before a comma is left out. -/
def dropBlanks : List Stretch → List Stretch
  | .blank :: .comma :: rest => .comma :: dropBlanks rest
  | s :: rest => s :: dropBlanks rest
  | [] => []

/-- Six digits at least: shorter colours double every digit. -/
def fullDigits (digits : List Char) : List Char :=
  let digits := digits.map Char.toLower
  if digits.length < 6 then digits.flatMap fun c => [c, c] else digits

end Stretch

/-- The value with its variables replaced; their own values may again hold variables, to the given
depth. A variable that is not defined, or defined by itself, has no value. -/
def expand? (vars : Entries (List Char)) : (depth : Nat) → List Char → Option (List Char)
  | depth, cs => do
    let stretches := Stretch.dropBlanks (Stretch.ofChars cs)
    let parts ← stretches.mapM fun
      | .quoted cs => some cs
      | .variable name => do
        let value ← Entries.get? vars name
        match depth with
        | 0 => none
        | depth + 1 => expand? vars depth value
      | .colour digits => some ('#' :: Stretch.fullDigits digits)
      | .comma => some [',', ' ']
      | .blank => some [' ']
      | .plain c => some [c]
    return parts.flatten

end PageComponent.Less
