import PageComponent.Number.Format
import PageComponent.Number.Literal
import PageComponent.Style.Variables
import PageComponent.Text.Letter

/-!
# Folding arithmetic

A group in parentheses that holds only numbers, variables that are numbers, and operators between
them is replaced by its result, which has the first unit of its operands. Folding goes on while a
group can be folded; every step takes away a parenthesis.
-/

namespace PageComponent.Style

/-- A number and its unit, which may be empty. -/
structure Quantity where
  value : Binary
  unit : List Char
deriving DecidableEq

inductive Operator where
  | times
  | dividedBy
  | plus
  | minus
deriving DecidableEq

namespace Operator

def ofChar? (c : Char) : Option Operator :=
  if c = '*' then some times
  else if c = '/' then some dividedBy
  else if c = '+' then some plus
  else if c = '-' then some minus
  else none

end Operator

namespace Quantity

def isUnitPart (c : Char) : Bool :=
  c.isAlpha || c == '%'

/-- The unsigned numeral at the front of `cs`: digits, a point and digits, or digits alone. -/
def numeral? (cs : List Char) : Option DecimalLiteral :=
  let whole := cs.takeWhile Text.isDigit
  let fraction := match cs.dropWhile Text.isDigit with
    | '.' :: rest => rest.takeWhile Text.isDigit
    | _ => []
  if fraction ≠ [] then some ⟨whole, some fraction, none⟩
  else if whole ≠ [] then some ⟨whole, none, none⟩
  else none

def numeralLength (d : DecimalLiteral) : Nat :=
  d.whole.length + match d.fraction with
    | some fraction => fraction.length + 1
    | none => 0

/-- The quantity at the front of `cs`, and what follows it. -/
def read? (cs : List Char) : Option (Quantity × List Char) := do
  let negative := cs.head? = some '-'
  let unsigned := if negative then cs.drop 1 else cs
  let numeral ← numeral? unsigned
  let rest := unsigned.drop (numeralLength numeral)
  return (⟨numeral.value negative, rest.takeWhile isUnitPart⟩, rest.dropWhile isUnitPart)

/-- The quantity that a literal is; a line end may follow it. -/
def ofLiteral? (literal : String) : Option Quantity :=
  match read? literal.toList with
  | some (q, []) | some (q, ['\n']) => some q
  | _ => none

end Quantity

/-! ## Groups -/

inductive GroupToken where
  | operand (q : Quantity)
  | operator (op : Operator)
deriving DecidableEq

namespace GroupToken

def isNameStart (c : Char) : Bool :=
  c.isAlpha || c == '_'

def isNamePart (c : Char) : Bool :=
  Text.isWordChar c || c == '-'

/-- The token at the front of `cs`, which begins with no blank, and what follows it. A minus sign
right before a number belongs to the number. -/
def read? (vars : Entries String) (cs : List Char) : Option (GroupToken × List Char) :=
  match cs with
  | [] => none
  | c :: r =>
    if c = '@' then
      if r.head?.any isNameStart then do
        let name := String.ofList (r.takeWhile isNamePart)
        let q ← Quantity.ofLiteral? (← Entries.get? vars name)
        return (.operand q, r.dropWhile isNamePart)
      else none
    else match Quantity.read? cs with
      | some (q, rest) => some (.operand q, rest)
      | none => (Operator.ofChar? c).map (.operator ·, r)

/-- The tokens of a group; each takes up at least one character. -/
def ofChars? (vars : Entries String) : (length : Nat) → List Char → Option (List GroupToken)
  | 0, cs => if Text.trimStart cs = [] then some [] else none
  | n + 1, cs =>
    match Text.trimStart cs with
    | [] => some []
    | body => do
      let (token, rest) ← read? vars body
      return token :: (← ofChars? vars n rest)

/-- The operators between operands, each with the operand behind it. -/
def tail? : List GroupToken → Option (List (Operator × Quantity))
  | [] => some []
  | .operator op :: .operand q :: rest => (tail? rest).map ((op, q) :: ·)
  | _ => none

end GroupToken

/-- The product that begins with `x`, and the sums that follow it. A division by zero fails. -/
def products (x : Binary) :
    List (Operator × Quantity) → Option (Binary × List (Bool × Binary))
  | [] => some (x, [])
  | (.times, q) :: rest => products (x.mul q.value) rest
  | (.dividedBy, q) :: rest => if q.value.isZero then none else products (x.div q.value) rest
  | (.plus, q) :: rest => do
    let (y, terms) ← products q.value rest
    return (x, (false, y) :: terms)
  | (.minus, q) :: rest => do
    let (y, terms) ← products q.value rest
    return (x, (true, y) :: terms)

def sum (x : Binary) (terms : List (Bool × Binary)) : Binary :=
  terms.foldl (fun x (subtracted, y) => if subtracted then x.sub y else x.add y) x

/-- The first unit that is not empty. -/
def firstUnit (qs : List Quantity) : List Char :=
  ((qs.map (·.unit)).find? (· ≠ [])).getD []

/-- The text of the result, rounded to eight places. -/
def foldGroup? (vars : Entries String) (body : List Char) : Option (List Char) := do
  match ← GroupToken.ofChars? vars body.length body with
  | .operand q :: rest =>
    let tail ← GroupToken.tail? rest
    if tail = [] then none
    let (x, terms) ← products q.value tail
    let result := (sum x terms).roundToPlaces 8
    return (NumberFormat.plain.write result).toList ++ firstUnit (q :: tail.map (·.2))
  | _ => none

/-! ## Texts -/

def isParenthesis (c : Char) : Bool :=
  c == '(' || c == ')'

/-- A group may not stand behind a name or a dash: there it belongs to a function. -/
def allowsGroup (previous : Option Char) : Bool :=
  !previous.any GroupToken.isNamePart

/-- Replaces the groups of `cs`, which stands behind the character `previous`. -/
def foldPass (vars : Entries String) (previous : Option Char) (cs : List Char) : List Char :=
  match cs with
  | [] => []
  | c :: r =>
    let body := r.takeWhile (!isParenthesis ·)
    if c = '(' ∧ allowsGroup previous ∧ (r.drop body.length).head? = some ')' then
      (foldGroup? vars body).getD (c :: body ++ [')']) ++
        foldPass vars (some ')') (r.drop (body.length + 1))
    else c :: foldPass vars (some c) r
termination_by cs.length
decreasing_by
  all_goals simp only [List.length_cons, List.length_drop]; omega

/-- At most `n` passes, as long as they change the text. -/
def foldPasses (vars : Entries String) : (n : Nat) → List Char → List Char
  | 0, cs => cs
  | n + 1, cs =>
    let folded := foldPass vars none cs
    if folded = cs then cs else foldPasses vars n folded

/-- A pass that changes the text takes a parenthesis away, so their number bounds the passes. -/
def foldChars (vars : Entries String) (cs : List Char) : List Char :=
  foldPasses vars (cs.count '(') cs

def foldLeaf (vars : Entries String) : Value → Value
  | .text s => .text (.ofList (foldChars vars s.toList))
  | value => value

mutual

def foldValue (vars : Entries String) : Value → Value
  | .mapping fields => .mapping (foldFields vars fields)
  | value => foldLeaf vars value

def foldFields (vars : Entries String) : List (String × Value) → List (String × Value)
  | [] => []
  | (key, value) :: rest => (key, foldValue vars value) :: foldFields vars rest

end

end PageComponent.Style
