import PageComponent.Number.Literal
import PageComponent.Rest
import PageComponent.Value.Basic

/-!
# Reading JSON

A value is read off the front of a text, which leaves less of it. An integer is a number without
fraction and exponent; the unbounded numbers may be named; of a repeated key the last value counts,
at the place of the first. An error holds what is left of the text where it arises.
-/

namespace PageComponent.Json

inductive Fault where
  | expectedValue
  | expectedName
  | expectedColon
  | expectedComma
  | unterminatedText
  | controlCharacter
  | invalidEscape
  | extraData
  | byteOrderMark
deriving DecidableEq

structure Error where
  fault : Fault
  rest : List Char
deriving DecidableEq

/-- The line of `source` on which the error arises. -/
def Error.line (e : Error) (source : String) : Nat :=
  source.toList.count '\n' - e.rest.count '\n' + 1

def isSpace (c : Char) : Bool :=
  c == ' ' || c == '\t' || c == '\n' || c == '\r'

def skipSpace (cs : List Char) : NotLonger cs :=
  NotLonger.dropWhile isSpace cs

/-! ## Texts -/

/-- The code unit that four hexadecimal digits spell. -/
def codeUnit? : (cs : List Char) → Option (Nat × Shorter cs)
  | a :: b :: c :: d :: rest =>
    (Text.radixValue? 16 [a, b, c, d]).map (·, Shorter.drop 4 a (b :: c :: d :: rest))
  | _ => none

def isHighSurrogate (n : Nat) : Bool :=
  0xD800 ≤ n && n < 0xDC00

def isLowSurrogate (n : Nat) : Bool :=
  0xDC00 ≤ n && n < 0xE000

def joinSurrogates (high low : Nat) : Nat :=
  0x10000 + (high - 0xD800) * 0x400 + (low - 0xDC00)

/-- A surrogate that stands alone is no character and is replaced. -/
def charOfUnit (n : Nat) : Char :=
  if isHighSurrogate n || isLowSurrogate n then '\uFFFD' else .ofNat n

def simpleEscape? (c : Char) : Option Char :=
  if c = '"' ∨ c = '\\' ∨ c = '/' then some c
  else if c = 'b' then some '\x08'
  else if c = 'f' then some '\x0c'
  else if c = 'n' then some '\n'
  else if c = 'r' then some '\r'
  else if c = 't' then some '\t'
  else none

/-- The low surrogate that completes a character. -/
def lowSurrogate? : (cs : List Char) → Option (Nat × Shorter cs)
  | '\\' :: 'u' :: r =>
    match codeUnit? r with
    | some (n, ⟨rest, h⟩) =>
      if isLowSurrogate n then some (n, ⟨rest, length_lt_cons_of_lt _ (length_lt_cons_of_lt _ h)⟩)
      else none
    | none => none
  | _ => none

/-- The character that an escape stands for, from behind its backslash. -/
def readEscape (start : List Char) : (cs : List Char) → Except Error (Char × Shorter cs)
  | [] => .error ⟨.unterminatedText, start⟩
  | 'u' :: r =>
    match codeUnit? r with
    | none => .error ⟨.invalidEscape, r⟩
    | some (n, ⟨r₁, h₁⟩) =>
      match isHighSurrogate n, lowSurrogate? r₁ with
      | true, some (m, ⟨r₂, h₂⟩) =>
        .ok (.ofNat (joinSurrogates n m), ⟨r₂, length_lt_cons_of_lt _ (Nat.lt_trans h₂ h₁)⟩)
      | _, _ => .ok (charOfUnit n, ⟨r₁, length_lt_cons_of_lt _ h₁⟩)
  | c :: r =>
    match simpleEscape? c with
    | some d => .ok (d, Shorter.tail c r)
    | none => .error ⟨.invalidEscape, c :: r⟩

/-- The content of a text from behind its opening quote, and what follows the closing one. -/
def readText (start cs : List Char) : Except Error (List Char × Shorter cs) :=
  match cs with
  | [] => .error ⟨.unterminatedText, start⟩
  | c :: r =>
    if c = '"' then .ok ([], Shorter.tail c r)
    else if c = '\\' then do
      let (d, ⟨r₁, h₁⟩) ← readEscape start r
      have := length_lt_cons_of_lt c h₁
      let (ds, ⟨r₂, h₂⟩) ← readText start r₁
      return (d :: ds, ⟨r₂, length_lt_cons_of_lt_of_lt c h₁ h₂⟩)
    else if c.toNat < 0x20 then .error ⟨.controlCharacter, c :: r⟩
    else do
      let (ds, ⟨r₁, h₁⟩) ← readText start r
      return (c :: ds, ⟨r₁, length_lt_cons_of_lt c h₁⟩)
termination_by cs.length
decreasing_by
  · exact this
  · exact length_lt_cons c r

/-! ## Numbers and words -/

/-- The length of the fraction at the front of `cs`, the point included. -/
def fractionSpan : List Char → Nat
  | '.' :: cs =>
    let n := (cs.takeWhile Char.isDigit).length
    if n = 0 then 0 else n + 1
  | _ => 0

/-- The length of the exponent at the front of `cs`, its letter and sign included. -/
def exponentSpan : List Char → Nat
  | c :: cs =>
    if c = 'e' ∨ c = 'E' then
      let (sign, ds) := match cs with
        | s :: ds => if s = '+' ∨ s = '-' then (1, ds) else (0, cs)
        | [] => (0, [])
      let n := (ds.takeWhile Char.isDigit).length
      if n = 0 then 0 else n + sign + 1
    else 0
  | [] => 0

/-- The length of the whole number at the front; only zero itself begins with a zero. -/
def wholeSpan : List Char → Nat
  | '0' :: _ => 1
  | cs => (cs.takeWhile Char.isDigit).length

/-- The length of the number at the front of `cs`, zero if there is none. -/
def numberSpan (cs : List Char) : Nat :=
  let (sign, ds) := match cs with
    | '-' :: ds => (1, ds)
    | ds => (0, ds)
  let whole := wholeSpan ds
  if whole = 0 then 0
  else
    let rest := ds.drop whole
    let fraction := fractionSpan rest
    sign + whole + fraction + exponentSpan (rest.drop fraction)

def numberValue (cs : List Char) : Value :=
  let (negative, body) := Text.takeSign cs
  match Text.readDecimal? body with
  | none => .number .nan
  | some d =>
    if d.isInteger then
      let n : Int := (Text.digitsValue? d.whole).getD 0
      Value.int (if negative then -n else n)
    else Value.float (d.value negative)

def words : List (List Char × Value) :=
  [("null".toList, .null), ("true".toList, .bool true), ("false".toList, .bool false),
    ("NaN".toList, .number .nan), ("Infinity".toList, Value.float (.infinite false)),
    ("-Infinity".toList, Value.float (.infinite true))]

/-- A word or number at the front of `c :: cs`. -/
def readAtom (c : Char) (cs : List Char) : Except Error (Value × Shorter (c :: cs)) :=
  match words.find? (fun w => w.1.isPrefixOf (c :: cs)) with
  | some (word, value) => .ok (value, Shorter.drop word.length c cs)
  | none =>
    let n := numberSpan (c :: cs)
    if n = 0 then .error ⟨.expectedValue, c :: cs⟩
    else .ok (numberValue ((c :: cs).take n), Shorter.drop n c cs)

/-! ## Values -/

/-- What follows the character `c`, which spaces may precede. -/
def next? (c : Char) (cs : List Char) : Option (Shorter cs) :=
  match skipSpace cs with
  | ⟨d :: r, h⟩ => if d = c then some ⟨r, h⟩ else none
  | ⟨[], _⟩ => none

mutual

def readValue (cs : List Char) : Except Error (Value × Shorter cs) :=
  match cs with
  | [] => .error ⟨.expectedValue, []⟩
  | c :: r =>
    if c = '"' then do
      let (s, ⟨r₁, h₁⟩) ← readText (c :: r) r
      return (.text (.ofList s), ⟨r₁, length_lt_cons_of_lt c h₁⟩)
    else if c = '{' then
      match next? '}' r with
      | some ⟨r₁, h₁⟩ => .ok (.mapping [], ⟨r₁, length_lt_cons_of_lt c h₁⟩)
      | none => do
        let (pairs, ⟨r₁, h₁⟩) ← readMembers r
        return (.mapping (Entries.ofPairs pairs), ⟨r₁, length_lt_cons_of_lt c h₁⟩)
    else if c = '[' then
      match next? ']' r with
      | some ⟨r₁, h₁⟩ => .ok (.list [], ⟨r₁, length_lt_cons_of_lt c h₁⟩)
      | none => do
        let (items, ⟨r₁, h₁⟩) ← readItems r
        return (.list items, ⟨r₁, length_lt_cons_of_lt c h₁⟩)
    else readAtom c r
termination_by 2 * cs.length

/-- The members up to the closing brace and what follows it. -/
def readMembers (cs : List Char) : Except Error (List (String × Value) × Shorter cs) :=
  match next? '"' cs with
  | none => .error ⟨.expectedName, skipSpace cs⟩
  | some ⟨r, h⟩ => do
    let (name, ⟨r₁, h₁⟩) ← readText (skipSpace cs) r
    match next? ':' r₁ with
    | none => throw ⟨.expectedColon, skipSpace r₁⟩
    | some ⟨r₂, h₂⟩ =>
      let ⟨r₃, h₃⟩ := skipSpace r₂
      let (value, ⟨r₄, h₄⟩) ← readValue r₃
      match next? '}' r₄ with
      | some ⟨r₅, h₅⟩ => return ([(.ofList name, value)], ⟨r₅, by omega⟩)
      | none =>
        match next? ',' r₄ with
        | none => throw ⟨.expectedComma, skipSpace r₄⟩
        | some ⟨r₅, h₅⟩ =>
          let (pairs, ⟨r₆, h₆⟩) ← readMembers r₅
          return ((.ofList name, value) :: pairs, ⟨r₆, by omega⟩)
termination_by 2 * cs.length + 1

/-- The items up to the closing bracket and what follows it. -/
def readItems (cs : List Char) : Except Error (List Value × Shorter cs) := do
  let ⟨r, h⟩ := skipSpace cs
  let (value, ⟨r₁, h₁⟩) ← readValue r
  match next? ']' r₁ with
  | some ⟨r₂, h₂⟩ => return ([value], ⟨r₂, by omega⟩)
  | none =>
    match next? ',' r₁ with
    | none => throw ⟨.expectedComma, skipSpace r₁⟩
    | some ⟨r₂, h₂⟩ =>
      let (values, ⟨r₃, h₃⟩) ← readItems r₂
      return (value :: values, ⟨r₃, by omega⟩)
termination_by 2 * cs.length + 1

end

/-- The value that a text holds, with spaces around it. -/
def read (source : String) : Except Error Value := do
  let cs := source.toList
  if cs.head? = some '\uFEFF' then throw ⟨.byteOrderMark, cs⟩
  let (value, ⟨rest, _⟩) ← readValue (skipSpace cs).1
  match (skipSpace rest).1 with
  | [] => return value
  | rest => throw ⟨.extraData, rest⟩

end PageComponent.Json
