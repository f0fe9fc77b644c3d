import PageComponent.Expr.Basic
import PageComponent.Expr.Token
import PageComponent.Number.Literal
import PageComponent.Rest
import PageComponent.Text.Quoted

/-!
# Parsing expressions

Recursive descent over tokens. The operators of one level associate to the left and bind looser
than those of the next; the conditional binds loosest and nests to the right; a prefix operator
binds tighter than every binary one and looser than member access. A parser returns what it left
over, and every parser of an expression leaves less than it was given. Expressions nest to any depth:
a limit on the depth of recursion is left out.
-/

namespace PageComponent

inductive ParseFault where
  | scan (fault : ScanFault)
  | expected (kind : TokenKind) (got : Token)
  | expectedName (got : Token)
  | unexpected (got : Token)
  | trailing (got : Token)
deriving DecidableEq

structure ParseError where
  fault : ParseFault
  pos : Nat
deriving DecidableEq

def ScanFault.message : ScanFault → String
  | .unexpectedCharacter c => "Unexpected character: " ++ quoted (.singleton c)
  | .unterminatedEscape => "Unterminated escape sequence"
  | .unterminatedText => "Unterminated string literal"

/-- How a message names a token: its kind and its quoted value. -/
def Token.describe (t : Token) : String :=
  t.kind.name ++ " (" ++ quoted t.value ++ ")"

def ParseFault.message : ParseFault → String
  | .scan fault => fault.message
  | .expected kind got => "Expected " ++ kind.name ++ ", got " ++ got.describe
  | .expectedName got => "Expected property name, got " ++ got.describe
  | .unexpected got => "Unexpected token: " ++ got.describe
  | .trailing got => "Unexpected token after expression: " ++ quoted got.value

namespace Level

/-- The levels in the order in which they are read. -/
def all : List Level :=
  [or, and, equality, relational, additive, multiplicative]

def operator? : Level → TokenKind → Option BinaryOp
  | or, .or => some .or
  | and, .and => some .and
  | equality, .eq => some .eq
  | equality, .ne => some .ne
  | equality, .strictEq => some .strictEq
  | equality, .strictNe => some .strictNe
  | relational, .lt => some .lt
  | relational, .gt => some .gt
  | relational, .le => some .le
  | relational, .ge => some .ge
  | additive, .plus => some .add
  | additive, .minus => some .sub
  | multiplicative, .star => some .mul
  | multiplicative, .slash => some .div
  | multiplicative, .percent => some .rem
  | _, _ => none

end Level

namespace TokenKind

def unaryOp? : TokenKind → Option UnaryOp
  | not => some .not
  | minus => some .neg
  | plus => some .pos
  | _ => none

/-- Keywords too may follow a dot. -/
def isName : TokenKind → Bool
  | ident | trueWord | falseWord | nullWord | undefinedWord => true
  | _ => false

end TokenKind

namespace Token

/-- The expression that a token is by itself, if it is one. -/
def atom? (t : Token) : Option Expr :=
  match t.kind with
  | .number =>
    match Text.readDecimal? t.value.toList with
    | some d =>
      if d.isInteger then some (.literal (.int ((Text.digitsValue? d.whole).getD 0)))
      else some (.literal (.float (d.value false)))
    | none => none
  | .string => some (.literal (.text t.value))
  | .trueWord => some (.literal (.bool true))
  | .falseWord => some (.literal (.bool false))
  | .nullWord => some (.literal .null)
  | .undefinedWord => some .undefined
  | .ident => some (.ref t.value [])
  | _ => none

end Token

namespace Expr

/-- Access by a plain name: it extends a reference and is a member of anything else. -/
def dot (target : Expr) (name : String) : Expr :=
  match target with
  | .ref parameter names => .ref parameter (names ++ [name])
  | _ => .member target (.literal (.text name))

variable (stop : Token)

/-- The next token, or the end of the source. -/
def next (ts : List Token) : Token :=
  ts.headD stop

def expect (kind : TokenKind) : (ts : List Token) → Except ParseError (Shorter ts)
  | [] => .error ⟨.expected kind stop, stop.pos⟩
  | t :: rest =>
    if t.kind = kind then .ok (Shorter.tail t rest) else .error ⟨.expected kind t, t.pos⟩

mutual

def parseExpr (ts : List Token) : Except ParseError (Expr × Shorter ts) := do
  let (test, ⟨r, hr⟩) ← parseLevels Level.all ts
  match r, hr with
  | [], hr => return (test, ⟨[], hr⟩)
  | t :: r, hr =>
    if t.kind = .question then
      have h₀ : r.length < ts.length := by simp only [List.length_cons] at hr; omega
      let (consequent, ⟨r₁, h₁⟩) ← parseExpr r
      let ⟨r₂, h₂⟩ ← expect stop .colon r₁
      have : r₂.length < ts.length := by omega
      let (alternate, ⟨r₃, h₃⟩) ← parseExpr r₂
      return (.conditional test consequent alternate, ⟨r₃, by omega⟩)
    else return (test, ⟨t :: r, hr⟩)
termination_by (ts.length, Level.all.length + 2)

def parseLevels (levels : List Level) (ts : List Token) :
    Except ParseError (Expr × Shorter ts) :=
  match levels with
  | [] => parseUnary ts
  | level :: tighter => do
    let (left, ⟨r, h⟩) ← parseLevels tighter ts
    let (e, ⟨r', h'⟩) ← parseChain level tighter left r
    return (e, ⟨r', by omega⟩)
termination_by (ts.length, levels.length + 1)

def parseChain (level : Level) (tighter : List Level) (left : Expr) (ts : List Token) :
    Except ParseError (Expr × NotLonger ts) :=
  match ts with
  | [] => .ok (left, NotLonger.self [])
  | t :: r =>
    match level.operator? t.kind with
    | none => .ok (left, NotLonger.self (t :: r))
    | some op => do
      let (right, ⟨r₁, h₁⟩) ← parseLevels tighter r
      have : r₁.length < (t :: r).length := by simp only [List.length_cons]; omega
      let (e, ⟨r₂, h₂⟩) ← parseChain level tighter (.binary op left right) r₁
      return (e, ⟨r₂, by simp only [List.length_cons]; omega⟩)
termination_by (ts.length, 0)

def parseUnary (ts : List Token) : Except ParseError (Expr × Shorter ts) :=
  match ts with
  | [] => .error ⟨.unexpected stop, stop.pos⟩
  | t :: r =>
    match t.kind.unaryOp? with
    | some op => do
      let (operand, ⟨r₁, h₁⟩) ← parseUnary r
      return (.unary op operand, ⟨r₁, by simp only [List.length_cons]; omega⟩)
    | none => do
      let (e, ⟨r₁, h₁⟩) ← parsePrimary t r
      let (e', ⟨r₂, h₂⟩) ← parsePostfix e r₁
      return (e', ⟨r₂, by simp only [List.length_cons]; omega⟩)
termination_by (ts.length, 0)

def parsePostfix (target : Expr) (ts : List Token) :
    Except ParseError (Expr × NotLonger ts) :=
  match ts with
  | [] => .ok (target, NotLonger.self [])
  | t :: r =>
    if t.kind = .dot then
      match r with
      | [] => .error ⟨.expectedName stop, stop.pos⟩
      | name :: r =>
        if name.kind.isName then do
          let (e, ⟨r₁, h₁⟩) ← parsePostfix (target.dot name.value) r
          return (e, ⟨r₁, by simp only [List.length_cons]; omega⟩)
        else .error ⟨.expectedName name, name.pos⟩
    else if t.kind = .lbracket then do
      let (key, ⟨r₁, h₁⟩) ← parseExpr r
      let ⟨r₂, h₂⟩ ← expect stop .rbracket r₁
      have : r₂.length < (t :: r).length := by simp only [List.length_cons]; omega
      let (e, ⟨r₃, h₃⟩) ← parsePostfix (.member target key) r₂
      return (e, ⟨r₃, by simp only [List.length_cons]; omega⟩)
    else .ok (target, NotLonger.self (t :: r))
termination_by (ts.length, 0)

/-- What begins with `t`: a parenthesised expression, a call or an atom. -/
def parsePrimary (t : Token) (ts : List Token) : Except ParseError (Expr × NotLonger ts) :=
  if t.kind = .lparen then do
    let (e, ⟨r₁, h₁⟩) ← parseExpr ts
    let ⟨r₂, h₂⟩ ← expect stop .rparen r₁
    return (e, ⟨r₂, by omega⟩)
  else if t.kind = .ident then
    match ts with
    | [] => .ok (.ref t.value [], NotLonger.self [])
    | u :: r =>
      if u.kind = .lparen then do
        let (arguments, ⟨r₁, h₁⟩) ← parseArguments r
        return (.call t.value arguments, ⟨r₁, by simp only [List.length_cons]; omega⟩)
      else .ok (.ref t.value [], NotLonger.self (u :: r))
  else match t.atom? with
    | some e => .ok (e, NotLonger.self ts)
    | none => .error ⟨.unexpected t, t.pos⟩
termination_by (ts.length, Level.all.length + 3)

/-- The arguments of a call from behind its opening parenthesis to the closing one. -/
def parseArguments (ts : List Token) : Except ParseError (List Expr × Shorter ts) :=
  if (next stop ts).kind = .rparen then do
    let r ← expect stop .rparen ts
    return ([], r)
  else do
    let (e, ⟨r₁, h₁⟩) ← parseExpr ts
    let (es, ⟨r₂, h₂⟩) ← parseMoreArguments r₁
    return (e :: es, ⟨r₂, by omega⟩)
termination_by (ts.length, Level.all.length + 3)

def parseMoreArguments (ts : List Token) : Except ParseError (List Expr × Shorter ts) :=
  match ts with
  | [] => .error ⟨.expected .rparen stop, stop.pos⟩
  | t :: r =>
    if t.kind = .comma then do
      let (e, ⟨r₁, h₁⟩) ← parseExpr r
      have : r₁.length < (t :: r).length := by simp only [List.length_cons]; omega
      let (es, ⟨r₂, h₂⟩) ← parseMoreArguments r₁
      return (e :: es, ⟨r₂, by simp only [List.length_cons]; omega⟩)
    else do
      let ⟨r₁, h₁⟩ ← expect stop .rparen (t :: r)
      return ([], ⟨r₁, h₁⟩)
termination_by (ts.length, 0)

end

/-- The expression that all of `ts` is. -/
def ofTokens (ts : List Token) : Except ParseError Expr := do
  let (e, ⟨rest, _⟩) ← parseExpr stop ts
  match rest with
  | [] => return e
  | t :: _ => throw ⟨.trailing t, t.pos⟩

def parse (source : String) : Except ParseError Expr :=
  match Token.ofSource source with
  | .ok ts => ofTokens (.stop source) ts
  | .error e => .error ⟨.scan e.fault, e.pos⟩

end Expr

end PageComponent
