import PageComponent.Proofs.Expr.Recognition

/-!
# Brackets in expressions

The brackets among the tokens of an expression are balanced, and all its commas stand within them.
-/

namespace PageComponent

namespace TokenKind

/-- The depth of brackets behind a token. There is none behind a bracket that closes nothing, and
none behind a comma outside all brackets. -/
def depthAfter? : (depth : Nat) → TokenKind → Option Nat
  | d, .lparen | d, .lbracket => some (d + 1)
  | d + 1, .rparen | d + 1, .rbracket => some d
  | 0, .rparen | 0, .rbracket | 0, .comma => none
  | d, _ => some d

/-- The token is no bracket and no comma. -/
def isLevel : TokenKind → Bool
  | .lparen | .lbracket | .rparen | .rbracket | .comma => false
  | _ => true

theorem depthAfter?_of_isLevel {kind : TokenKind} (h : kind.isLevel = true) (d : Nat) :
    kind.depthAfter? d = some d := by
  cases kind <;> first | rfl | cases h

end TokenKind

namespace Token

/-- The depth of brackets behind all of the tokens. -/
def depthBehind? (depth : Nat) (ts : List Token) : Option Nat :=
  ts.foldlM (fun d t => t.kind.depthAfter? d) depth

variable {d d' : Nat} {t : Token} {ts us : List Token}

theorem depthBehind?_cons (d : Nat) (t : Token) (ts : List Token) :
    depthBehind? d (t :: ts) = (t.kind.depthAfter? d).bind (depthBehind? · ts) :=
  List.foldlM_cons

theorem depthBehind?_append (d : Nat) (ts us : List Token) :
    depthBehind? d (ts ++ us) = (depthBehind? d ts).bind (depthBehind? · us) :=
  List.foldlM_append

theorem depthBehind?_cons_of_eq {kind : TokenKind} (t : Grammar.Terminal kind)
    (h : kind.depthAfter? d = some d') : depthBehind? d (t.1 :: ts) = depthBehind? d' ts := by
  rw [depthBehind?_cons, t.2, h, Option.bind_some]

theorem depthBehind?_cons_of_isLevel (h : t.kind.isLevel = true) :
    depthBehind? d (t :: ts) = depthBehind? d ts := by
  rw [depthBehind?_cons, TokenKind.depthAfter?_of_isLevel h, Option.bind_some]

end Token

namespace Grammar

open Token

theorem isLevel_of_mem_literalKinds {kind : TokenKind} (h : kind ∈ literalKinds) :
    kind.isLevel = true := by
  revert kind
  decide

theorem isLevel_of_mem_nameKinds {kind : TokenKind} (h : kind ∈ nameKinds) :
    kind.isLevel = true := by
  revert kind
  decide

theorem isLevel_binary (op : BinaryOp) : op.token.isLevel = true := by
  cases op <;> rfl

theorem isLevel_unary (op : UnaryOp) : op.token.isLevel = true := by
  cases op <;> rfl

mutual

theorem Phrase.depthBehind?_tokens (p : Phrase) (d : Nat) : depthBehind? d p.tokens = some d := by
  match p with
  | .plain test => exact test.depthBehind?_tokens d
  | .conditional test question consequent colon alternate =>
    rw [Phrase.tokens, depthBehind?_append, test.depthBehind?_tokens, Option.bind_some,
      depthBehind?_cons_of_eq question rfl, depthBehind?_append, consequent.depthBehind?_tokens,
      Option.bind_some, depthBehind?_cons_of_eq colon rfl, alternate.depthBehind?_tokens]
termination_by structural p

theorem Operand.depthBehind?_tokens {levels : List Level} (o : Operand levels) (d : Nat) :
    depthBehind? d o.tokens = some d := by
  match o with
  | .tightest u => exact u.depthBehind?_tokens d
  | .chain first links =>
    rw [Operand.tokens, depthBehind?_append, first.depthBehind?_tokens, Option.bind_some,
      links.depthBehind?_tokens]
termination_by structural o

theorem Links.depthBehind?_tokens {level : Level} {tighter : List Level} (l : Links level tighter)
    (d : Nat) : depthBehind? d l.tokens = some d := by
  match l with
  | .nil => rfl
  | .cons op mem sign right rest =>
    have level : sign.1.kind.isLevel = true := sign.2.symm ▸ isLevel_binary op
    rw [Links.tokens, depthBehind?_cons_of_isLevel level, depthBehind?_append,
      right.depthBehind?_tokens, Option.bind_some, rest.depthBehind?_tokens]
termination_by structural l

theorem Prefixed.depthBehind?_tokens (u : Prefixed) (d : Nat) :
    depthBehind? d u.tokens = some d := by
  match u with
  | .sign op sign operand =>
    have level : sign.1.kind.isLevel = true := sign.2.symm ▸ isLevel_unary op
    rw [Prefixed.tokens, depthBehind?_cons_of_isLevel level, operand.depthBehind?_tokens]
  | .bare primary suffixes =>
    rw [Prefixed.tokens, depthBehind?_append, primary.depthBehind?_tokens, Option.bind_some,
      suffixes.depthBehind?_tokens]
termination_by structural u

theorem Suffixes.depthBehind?_tokens (x : Suffixes) (d : Nat) :
    depthBehind? d x.tokens = some d := by
  match x with
  | .nil => rfl
  | .name dot name rest =>
    rw [Suffixes.tokens, depthBehind?_cons_of_eq dot rfl,
      depthBehind?_cons_of_isLevel (isLevel_of_mem_nameKinds name.2), rest.depthBehind?_tokens]
  | .index opening key closing rest =>
    rw [Suffixes.tokens, depthBehind?_cons_of_eq opening rfl, depthBehind?_append,
      key.depthBehind?_tokens, Option.bind_some, depthBehind?_cons_of_eq closing rfl,
      rest.depthBehind?_tokens]
termination_by structural x

theorem Primary.depthBehind?_tokens (p : Primary) (d : Nat) :
    depthBehind? d p.tokens = some d := by
  match p with
  | .literal t => exact depthBehind?_cons_of_isLevel (isLevel_of_mem_literalKinds t.2)
  | .ident t => exact depthBehind?_cons_of_eq t rfl
  | .group opening inner closing =>
    rw [Primary.tokens, depthBehind?_cons_of_eq opening rfl, depthBehind?_append,
      inner.depthBehind?_tokens, Option.bind_some]
    exact depthBehind?_cons_of_eq closing rfl
  | .call function opening arguments closing =>
    rw [Primary.tokens, depthBehind?_cons_of_eq function rfl, depthBehind?_cons_of_eq opening rfl,
      depthBehind?_append, arguments.depthBehind?_tokens, Option.bind_some]
    exact depthBehind?_cons_of_eq closing rfl
termination_by structural p

/-- Arguments stand within the brackets of their call, so their commas do. -/
theorem Arguments.depthBehind?_tokens (x : Arguments) (d : Nat) :
    depthBehind? (d + 1) x.tokens = some (d + 1) := by
  match x with
  | .none => rfl
  | .some first more =>
    rw [Arguments.tokens, depthBehind?_append, first.depthBehind?_tokens, Option.bind_some,
      more.depthBehind?_tokens]
termination_by structural x

theorem MoreArguments.depthBehind?_tokens (x : MoreArguments) (d : Nat) :
    depthBehind? (d + 1) x.tokens = some (d + 1) := by
  match x with
  | .nil => rfl
  | .cons comma next rest =>
    rw [MoreArguments.tokens, depthBehind?_cons_of_eq comma rfl, depthBehind?_append,
      next.depthBehind?_tokens, Option.bind_some, rest.depthBehind?_tokens]
termination_by structural x

end

end Grammar

end PageComponent
