import PageComponent.Rest
import PageComponent.Text.Digit

/-!
# Texts of settings

A text is written in double quotes, where a backslash escapes, or in single quotes, where nothing
does. Between quotes written three times it may hold line ends. Control characters other than the
tab are never written as they are.
-/

namespace PageComponent.Toml

def isControl (c : Char) : Bool :=
  (c.toNat < 0x20 && c != '\t') || c.toNat == 0x7F

def isSpace (c : Char) : Bool :=
  c == ' ' || c == '\t'

def isSpaceOrLineEnd (c : Char) : Bool :=
  isSpace c || c == '\n'

def simpleEscape? (c : Char) : Option Char :=
  if c = '"' ∨ c = '\\' then some c
  else if c = 'b' then some '\x08'
  else if c = 't' then some '\t'
  else if c = 'n' then some '\n'
  else if c = 'f' then some '\x0c'
  else if c = 'r' then some '\r'
  else none

/-- The character whose code point `width` hexadecimal digits spell. -/
def codePoint? (width : Nat) (cs : List Char) : Option Char := do
  let ds := cs.take width
  if ds.length = width then
    let n ← Text.radixValue? 16 ds
    if n.isValidChar then some (.ofNat n) else none
  else none

/-- The character that an escape stands for, from behind its backslash. -/
def readEscape? : (cs : List Char) → Option (Char × Shorter cs)
  | [] => none
  | c :: cs =>
    if c = 'u' then (codePoint? 4 cs).map (·, Shorter.drop 5 c cs)
    else if c = 'U' then (codePoint? 8 cs).map (·, Shorter.drop 9 c cs)
    else (simpleEscape? c).map (·, Shorter.drop 1 c cs)

/-- The content of a text from behind its double quote, and what follows the closing one. -/
def readQuoted? (cs : List Char) : Option (List Char × Shorter cs) :=
  match cs with
  | [] => none
  | c :: r =>
    if c = '"' then some ([], Shorter.tail c r)
    else if c = '\\' then do
      let (d, ⟨r₁, h₁⟩) ← readEscape? r
      have := length_lt_cons_of_lt c h₁
      let (ds, ⟨r₂, h₂⟩) ← readQuoted? r₁
      return (d :: ds, ⟨r₂, length_lt_cons_of_lt_of_lt c h₁ h₂⟩)
    else if isControl c then none
    else do
      let (ds, ⟨r₁, h₁⟩) ← readQuoted? r
      return (c :: ds, ⟨r₁, length_lt_cons_of_lt c h₁⟩)
termination_by cs.length
decreasing_by
  · exact this
  · exact length_lt_cons c r

/-- The content of a text from behind its single quote, and what follows the closing one. -/
def readLiteral? : (cs : List Char) → Option (List Char × Shorter cs)
  | [] => none
  | c :: r =>
    if c = '\'' then some ([], Shorter.tail c r)
    else if isControl c then none
    else do
      let (ds, ⟨r₁, h₁⟩) ← readLiteral? r
      return (c :: ds, ⟨r₁, length_lt_cons_of_lt c h₁⟩)

/-- Three quotes end a long text; two more right behind them still belong to it. -/
def closeLong? (quote : Char) (cs : List Char) : Option (List Char × Shorter cs) :=
  match cs with
  | a :: b :: c :: r =>
    if a = quote ∧ b = quote ∧ c = quote then
      let extra := (r.takeWhile (· == quote)).take 2
      some (extra, Shorter.drop (extra.length + 3) a (b :: c :: r))
    else none
  | _ => none

/-- A backslash before the end of a line goes on behind all the space that follows it. -/
def joinLines? (cs : List Char) : Option (NotLonger cs) :=
  match NotLonger.dropWhile isSpace cs with
  | ⟨'\n' :: r, h⟩ =>
    let ⟨r₁, h₁⟩ := NotLonger.dropWhile isSpaceOrLineEnd r
    some ⟨r₁, by simp only [List.length_cons] at h; omega⟩
  | _ => none

/-- The rest of a long text in double quotes. -/
def readLongQuoted? (cs : List Char) : Option (List Char × Shorter cs) :=
  match closeLong? '"' cs with
  | some closed => some closed
  | none =>
    match cs with
    | [] => none
    | c :: r =>
      if c = '\\' then
        match joinLines? r with
        | some ⟨r₁, h₁⟩ => do
          have := length_lt_cons_of_le c h₁
          let (ds, ⟨r₂, h₂⟩) ← readLongQuoted? r₁
          return (ds, ⟨r₂, length_lt_cons_of_le_of_lt c h₁ h₂⟩)
        | none => do
          let (d, ⟨r₁, h₁⟩) ← readEscape? r
          have := length_lt_cons_of_lt c h₁
          let (ds, ⟨r₂, h₂⟩) ← readLongQuoted? r₁
          return (d :: ds, ⟨r₂, length_lt_cons_of_lt_of_lt c h₁ h₂⟩)
      else if isControl c ∧ c ≠ '\n' then none
      else do
        let (ds, ⟨r₁, h₁⟩) ← readLongQuoted? r
        return (c :: ds, ⟨r₁, length_lt_cons_of_lt c h₁⟩)
termination_by cs.length
decreasing_by
  · exact this
  · exact this
  · exact length_lt_cons c r

/-- The rest of a long text in single quotes. -/
def readLongLiteral? : (cs : List Char) → Option (List Char × Shorter cs)
  | [] => none
  | c :: r =>
    match closeLong? '\'' (c :: r) with
    | some closed => some closed
    | none =>
      if isControl c ∧ c ≠ '\n' then none
      else do
        let (ds, ⟨r₁, h₁⟩) ← readLongLiteral? r
        return (c :: ds, ⟨r₁, length_lt_cons_of_lt c h₁⟩)

/-- A line end right behind the opening quotes of a long text is no part of it. -/
def skipLineEnd : (cs : List Char) → NotLonger cs
  | [] => NotLonger.self []
  | c :: r => if c = '\n' then ⟨r, Nat.le_succ r.length⟩ else NotLonger.self (c :: r)

/-- A text at the front, with its quotes. -/
def readText? (cs : List Char) : Option (String × Shorter cs) :=
  match cs with
  | '"' :: '"' :: '"' :: r => do
    let ⟨r₁, h₁⟩ := skipLineEnd r
    let (s, ⟨r₂, h₂⟩) ← readLongQuoted? r₁
    return (.ofList s, ⟨r₂, by simp only [List.length_cons]; omega⟩)
  | '\'' :: '\'' :: '\'' :: r => do
    let ⟨r₁, h₁⟩ := skipLineEnd r
    let (s, ⟨r₂, h₂⟩) ← readLongLiteral? r₁
    return (.ofList s, ⟨r₂, by simp only [List.length_cons]; omega⟩)
  | '"' :: r => do
    let (s, ⟨r₁, h₁⟩) ← readQuoted? r
    return (.ofList s, ⟨r₁, by simp only [List.length_cons]; omega⟩)
  | '\'' :: r => do
    let (s, ⟨r₁, h₁⟩) ← readLiteral? r
    return (.ofList s, ⟨r₁, by simp only [List.length_cons]; omega⟩)
  | _ => none

end PageComponent.Toml
