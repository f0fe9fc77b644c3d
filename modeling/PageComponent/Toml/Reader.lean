import PageComponent.Rest
import PageComponent.Toml.Scalar
import PageComponent.Toml.Table
import PageComponent.Toml.Text

/-!
# Reading TOML

A document is read into statements, one on a line, and these are put together to a table. Lines
end with a line feed; comments hold no control characters.
-/

namespace PageComponent.Toml

open Shorter (after?)

/-! ## Space and comments -/

def skipSpace (cs : List Char) : NotLonger cs :=
  NotLonger.dropWhile isSpace cs

/-- What follows the rest of a comment; it ends with the line. -/
def skipComment? (cs : List Char) : Option (NotLonger cs) :=
  if (cs.takeWhile (· != '\n')).any isControl then none
  else some (NotLonger.dropWhile (· != '\n') cs)

/-- What follows the space, line ends and comments within a list. -/
def skipLines? (cs : List Char) : Option (NotLonger cs) :=
  match cs with
  | [] => some (NotLonger.self [])
  | c :: r =>
    if isSpaceOrLineEnd c then
      (skipLines? r).map fun ⟨rest, h⟩ => ⟨rest, length_le_cons_of_le c h⟩
    else if c = '#' then do
      let ⟨r₁, h₁⟩ ← skipComment? r
      have := length_lt_cons_of_le c h₁
      let ⟨r₂, h₂⟩ ← skipLines? r₁
      return ⟨r₂, length_le_cons_of_le_of_le c h₁ h₂⟩
    else some (NotLonger.self (c :: r))
termination_by cs.length
decreasing_by
  · exact length_lt_cons c r
  · exact this

/-- What follows the end of a line, where a comment may stand. -/
def endLine? (cs : List Char) : Option { rest : List Char // rest.length ≤ cs.length - 1 } := do
  let ⟨r, h⟩ := skipSpace cs
  let ⟨r₁, h₁⟩ ← match after? '#' r with
    | some ⟨r₁, h₁⟩ =>
      (skipComment? r₁).map fun ⟨r₂, h₂⟩ => ⟨r₂, length_le_of_lt_of_le h₁ h₂⟩
    | none => some (NotLonger.self r)
  match after? '\n' r₁ with
  | some ⟨r₂, h₂⟩ =>
    return ⟨r₂, Nat.le_sub_one_of_lt (Nat.lt_of_lt_of_le h₂ (Nat.le_trans h₁ h))⟩
  | none => if r₁ = [] then return ⟨[], Nat.zero_le _⟩ else none

/-! ## Keys -/

def isBareKeyChar (c : Char) : Bool :=
  c.isAlphanum || c == '-' || c == '_'

/-- One name of a key, bare or in quotes. -/
def readName? : (cs : List Char) → Option (String × Shorter cs)
  | [] => none
  | c :: r =>
    if c = '"' then do
      let (s, ⟨r₁, h₁⟩) ← readQuoted? r
      return (.ofList s, ⟨r₁, length_lt_cons_of_lt c h₁⟩)
    else if c = '\'' then do
      let (s, ⟨r₁, h₁⟩) ← readLiteral? r
      return (.ofList s, ⟨r₁, length_lt_cons_of_lt c h₁⟩)
    else
      let name := (c :: r).takeWhile isBareKeyChar
      if name.isEmpty then none else some (.ofList name, Shorter.drop name.length c r)

/-- A key, whose names are joined by dots, and the space behind it. -/
def readKey? (cs : List Char) : Option (Key × Shorter cs) := do
  let (name, ⟨r, h⟩) ← readName? cs
  let ⟨r₁, h₁⟩ := skipSpace r
  match after? '.' r₁ with
  | some ⟨r₂, h₂⟩ =>
    let ⟨r₃, h₃⟩ := skipSpace r₂
    let (key, ⟨r₄, h₄⟩) ← readKey? r₃
    return (⟨name :: key.parents, key.name⟩, ⟨r₄, by omega⟩)
  | none => return (⟨[], name⟩, ⟨r₁, by omega⟩)
termination_by cs.length

/-! ## Values -/

mutual

def readValue? (cs : List Char) : Option (Value × Shorter cs) :=
  match cs with
  | [] => none
  | c :: r =>
    if c = '"' ∨ c = '\'' then do
      let (s, rest) ← readText? (c :: r)
      return (.text s, rest)
    else if c = '[' then do
      let (items, ⟨r₁, h₁⟩) ← readItems? r
      return (.list items, ⟨r₁, length_lt_cons_of_lt c h₁⟩)
    else if c = '{' then
      let ⟨r₁, h⟩ := skipSpace r
      have h₁ := length_lt_cons_of_le c h
      match after? '}' r₁ with
      | some ⟨r₂, h₂⟩ => some (.table [], ⟨r₂, Nat.lt_trans h₂ h₁⟩)
      | none => do
        let (pairs, ⟨r₂, h₂⟩) ← readPairs? r₁
        let table ← Table.ofPairs? pairs
        return (.table table, ⟨r₂, Nat.lt_trans h₂ h₁⟩)
    else (readScalar? (c :: r)).map fun (v, n) => (v, Shorter.drop n c r)
termination_by 3 * cs.length

/-- The items up to the closing bracket; a comma may follow the last one. -/
def readItems? (cs : List Char) : Option (List Value × Shorter cs) := do
  let ⟨r, h⟩ ← skipLines? cs
  match after? ']' r with
  | some ⟨r₁, h₁⟩ => return ([], ⟨r₁, by omega⟩)
  | none =>
    let (v, ⟨r₁, h₁⟩) ← readValue? r
    let ⟨r₂, h₂⟩ ← skipLines? r₁
    match after? ']' r₂ with
    | some ⟨r₃, h₃⟩ => return ([v], ⟨r₃, by omega⟩)
    | none =>
      let ⟨r₃, h₃⟩ ← after? ',' r₂
      let (vs, ⟨r₄, h₄⟩) ← readItems? r₃
      return (v :: vs, ⟨r₄, by omega⟩)
termination_by 3 * cs.length + 1

/-- A key, an equals sign and a value. -/
def readPair? (cs : List Char) : Option ((Key × Value) × Shorter cs) := do
  let (key, ⟨r, h⟩) ← readKey? cs
  let ⟨r₁, h₁⟩ ← after? '=' r
  let ⟨r₂, h₂⟩ := skipSpace r₁
  let (v, ⟨r₃, h₃⟩) ← readValue? r₂
  return ((key, v), ⟨r₃, by omega⟩)
termination_by 3 * cs.length + 1

/-- The pairs up to the closing brace, on one line. -/
def readPairs? (cs : List Char) : Option (List (Key × Value) × Shorter cs) := do
  let (pair, ⟨r, h⟩) ← readPair? cs
  let ⟨r₁, h₁⟩ := skipSpace r
  match after? '}' r₁ with
  | some ⟨r₂, h₂⟩ => return ([pair], ⟨r₂, by omega⟩)
  | none =>
    let ⟨r₂, h₂⟩ ← after? ',' r₁
    let ⟨r₃, h₃⟩ := skipSpace r₂
    let (pairs, ⟨r₄, h₄⟩) ← readPairs? r₃
    return (pair :: pairs, ⟨r₄, by omega⟩)
termination_by 3 * cs.length + 2

end

/-! ## Documents -/

/-- The key of a header from behind its opening brackets, and what follows the closing ones. -/
def readHeader? (close cs : List Char) : Option (Key × NotLonger cs) := do
  let ⟨r, h⟩ := skipSpace cs
  let (key, ⟨r₁, h₁⟩) ← readKey? r
  if close.isPrefixOf r₁ then
    return (key, ⟨r₁.drop close.length, by simp only [List.length_drop]; omega⟩)
  else none

/-- A statement at the front, if a line or the text does not end there. -/
def readStatement? (cs : List Char) : Option (List Statement × NotLonger cs) :=
  match cs with
  | '[' :: '[' :: r => do
    let (key, ⟨r₁, h₁⟩) ← readHeader? [']', ']'] r
    return ([.tables key], ⟨r₁, by simp only [List.length_cons]; omega⟩)
  | '[' :: r => do
    let (key, ⟨r₁, h₁⟩) ← readHeader? [']'] r
    return ([.table key], ⟨r₁, by simp only [List.length_cons]; omega⟩)
  | cs =>
    match cs.head? with
    | none | some '\n' | some '#' => some ([], NotLonger.self cs)
    | _ => do
      let ((key, v), ⟨r, h⟩) ← readPair? cs
      return ([.pair key v], ⟨r, Nat.le_of_lt h⟩)

def readStatements? (cs : List Char) : Option (List Statement) :=
  match cs with
  | [] => some []
  | c :: r => do
    let ⟨r₁, h₁⟩ := skipSpace (c :: r)
    let (statements, ⟨r₂, h₂⟩) ← readStatement? r₁
    let ⟨r₃, h₃⟩ ← endLine? r₂
    have : r₃.length ≤ r.length := by simp only [List.length_cons] at h₁; omega
    return statements ++ (← readStatements? r₃)
termination_by cs.length
decreasing_by simp only [List.length_cons]; omega

def read? (source : String) : Option Table := do
  Table.ofStatements? (← readStatements? source.toList)

end PageComponent.Toml
