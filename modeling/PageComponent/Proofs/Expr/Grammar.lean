import PageComponent.Expr.Basic
import PageComponent.Expr.Token

/-!
# The grammar of expressions

    expr        → operand("||", …) ("?" expr ":" expr)?
    operand     → tighter (operator tighter)*      at each of six levels
    prefixed    → ("!" | "-" | "+") prefixed | primary suffix*
    suffix      → "." name | "[" expr "]"
    primary     → literal | IDENT | "(" expr ")" | IDENT "(" (expr ("," expr)*)? ")"

A derivation is a tree with a token at each leaf. It has a list of tokens, read off its leaves from
left to right, and it has an expression. Nothing here refers to the parser: what an operator is
written with, which operators share a level, how the levels follow one another and what a literal
denotes are said anew.
-/

namespace PageComponent

namespace BinaryOp

def token : BinaryOp → TokenKind
  | add => .plus
  | sub => .minus
  | mul => .star
  | div => .slash
  | rem => .percent
  | eq => .eq
  | ne => .ne
  | strictEq => .strictEq
  | strictNe => .strictNe
  | lt => .lt
  | gt => .gt
  | le => .le
  | ge => .ge
  | and => .and
  | or => .or

end BinaryOp

namespace UnaryOp

def token : UnaryOp → TokenKind
  | neg => .minus
  | pos => .plus
  | not => .not

end UnaryOp

namespace Level

def operators : Level → List BinaryOp
  | or => [.or]
  | and => [.and]
  | equality => [.eq, .ne, .strictEq, .strictNe]
  | relational => [.lt, .gt, .le, .ge]
  | additive => [.add, .sub]
  | multiplicative => [.mul, .div, .rem]

end Level

namespace Grammar

/-- The six levels, from the loosest operators to the tightest. -/
def levels : List Level :=
  [.or, .and, .equality, .relational, .additive, .multiplicative]

def literalKinds : List TokenKind :=
  [.number, .string, .trueWord, .falseWord, .nullWord, .undefinedWord]

def nameKinds : List TokenKind :=
  [.ident, .trueWord, .falseWord, .nullWord, .undefinedWord]

/-- A token of the given kind. -/
abbrev Terminal (kind : TokenKind) := { t : Token // t.kind = kind }

/-- A token of one of the given kinds. -/
abbrev OneOf (kinds : List TokenKind) := { t : Token // t.kind ∈ kinds }

/-! ## Derivations -/

mutual

inductive Phrase : Type where
  | plain (test : Operand Grammar.levels)
  | conditional (test : Operand Grammar.levels) (question : Terminal .question) (consequent : Phrase)
      (colon : Terminal .colon) (alternate : Phrase)

/-- What the operators of the given levels, the loosest first, may combine. -/
inductive Operand : List Level → Type where
  | tightest (u : Prefixed) : Operand []
  | chain {level : Level} {tighter : List Level} (first : Operand tighter)
      (links : Links level tighter) : Operand (level :: tighter)

/-- Any number of operators of one level, each with its right operand. -/
inductive Links : Level → List Level → Type where
  | nil {level : Level} {tighter : List Level} : Links level tighter
  | cons {level : Level} {tighter : List Level} (op : BinaryOp) (mem : op ∈ level.operators)
      (sign : Terminal op.token) (right : Operand tighter) (rest : Links level tighter) :
      Links level tighter

inductive Prefixed : Type where
  | sign (op : UnaryOp) (sign : Terminal op.token) (operand : Prefixed)
  | bare (primary : Primary) (suffixes : Suffixes)

inductive Suffixes : Type where
  | nil
  | name (dot : Terminal .dot) (name : OneOf nameKinds) (rest : Suffixes)
  | index (opening : Terminal .lbracket) (key : Phrase) (closing : Terminal .rbracket)
      (rest : Suffixes)

inductive Primary : Type where
  | literal (t : OneOf literalKinds)
  | ident (t : Terminal .ident)
  | group (opening : Terminal .lparen) (inner : Phrase) (closing : Terminal .rparen)
  | call (function : Terminal .ident) (opening : Terminal .lparen) (arguments : Arguments)
      (closing : Terminal .rparen)

inductive Arguments : Type where
  | none
  | some (first : Phrase) (more : MoreArguments)

inductive MoreArguments : Type where
  | nil
  | cons (comma : Terminal .comma) (next : Phrase) (rest : MoreArguments)

end

/-! ## The tokens of a derivation -/

mutual

def Phrase.tokens : Phrase → List Token
  | .plain test => test.tokens
  | .conditional test question consequent colon alternate =>
    test.tokens ++ question.1 :: (consequent.tokens ++ colon.1 :: alternate.tokens)

def Operand.tokens : {levels : List Level} → Operand levels → List Token
  | _, .tightest u => u.tokens
  | _, .chain first links => first.tokens ++ links.tokens

def Links.tokens : {level : Level} → {tighter : List Level} → Links level tighter → List Token
  | _, _, .nil => []
  | _, _, .cons _ _ sign right rest => sign.1 :: (right.tokens ++ rest.tokens)

def Prefixed.tokens : Prefixed → List Token
  | .sign _ sign operand => sign.1 :: operand.tokens
  | .bare primary suffixes => primary.tokens ++ suffixes.tokens

def Suffixes.tokens : Suffixes → List Token
  | .nil => []
  | .name dot name rest => dot.1 :: name.1 :: rest.tokens
  | .index opening key closing rest => opening.1 :: (key.tokens ++ closing.1 :: rest.tokens)

def Primary.tokens : Primary → List Token
  | .literal t => [t.1]
  | .ident t => [t.1]
  | .group opening inner closing => opening.1 :: (inner.tokens ++ [closing.1])
  | .call function opening arguments closing =>
    function.1 :: opening.1 :: (arguments.tokens ++ [closing.1])

def Arguments.tokens : Arguments → List Token
  | .none => []
  | .some first more => first.tokens ++ more.tokens

def MoreArguments.tokens : MoreArguments → List Token
  | .nil => []
  | .cons comma next rest => comma.1 :: (next.tokens ++ rest.tokens)

end

/-! ## The expression of a derivation -/

/-- What a numeral denotes: with a point the nearest binary number, else an integer. -/
def numeral (cs : List Char) : Literal :=
  let whole := cs.takeWhile (· ≠ '.')
  match cs.dropWhile (· ≠ '.') with
  | [] => .int (Nat.ofDigitChars 10 whole 0)
  | _ :: fraction =>
    .float (.ofDecimal false (Nat.ofDigitChars 10 (whole ++ fraction) 0) (-fraction.length))

/-- What a literal token denotes. -/
def denotes (t : Token) : Expr :=
  match t.kind with
  | .number => .literal (numeral t.value.toList)
  | .string => .literal (.text t.value)
  | .trueWord => .literal (.bool true)
  | .falseWord => .literal (.bool false)
  | .nullWord => .literal .null
  | _ => .undefined

mutual

/-- The conditional nests to the right. -/
def Phrase.expr : Phrase → Expr
  | .plain test => test.expr
  | .conditional test _ consequent _ alternate =>
    .conditional test.expr consequent.expr alternate.expr

def Operand.expr : {levels : List Level} → Operand levels → Expr
  | _, .tightest u => u.expr
  | _, .chain first links => links.expr first.expr

/-- The operators of a level associate to the left. -/
def Links.expr : {level : Level} → {tighter : List Level} → Links level tighter → Expr → Expr
  | _, _, .nil, left => left
  | _, _, .cons op _ _ right rest, left => rest.expr (.binary op left right.expr)

def Prefixed.expr : Prefixed → Expr
  | .sign op _ operand => .unary op operand.expr
  | .bare primary suffixes => suffixes.expr primary.expr

/-- A name extends a reference, however it is written, and is a member of anything else. -/
def Suffixes.expr : Suffixes → Expr → Expr
  | .nil, target => target
  | .name _ name rest, .ref parameter names => rest.expr (.ref parameter (names ++ [name.1.value]))
  | .name _ name rest, target => rest.expr (.member target (.literal (.text name.1.value)))
  | .index _ key _ rest, target => rest.expr (.member target key.expr)

def Primary.expr : Primary → Expr
  | .literal t => denotes t.1
  | .ident t => .ref t.1.value []
  | .group _ inner _ => inner.expr
  | .call function _ arguments _ => .call function.1.value arguments.exprs

def Arguments.exprs : Arguments → List Expr
  | .none => []
  | .some first more => first.expr :: more.exprs

def MoreArguments.exprs : MoreArguments → List Expr
  | .nil => []
  | .cons _ next rest => next.expr :: rest.exprs

end

end Grammar

end PageComponent
