import PageComponent.Expr.Parser

/-!
# What the parsers read

The parsers carry a proof that they leave less than they were given. Here that proof is forgotten:
each parser becomes a reader that leaves a plain list of tokens, and one equation says all it does,
its failures included. Later proofs use these equations and never open a parser.
-/

namespace PageComponent.Expr

/-- The outcome of a parser, where what it leaves is a plain list. -/
def plainly {α : Type} {P : List Token → Prop}
    (x : Except ParseError (α × { rest : List Token // P rest })) :
    Except ParseError (α × List Token) :=
  x.map fun p => (p.1, p.2.1)

theorem plainly_bind {α β : Type} {P Q : List Token → Prop}
    {x : Except ParseError (α × { rest : List Token // P rest })}
    {f : α × { rest : List Token // P rest } →
      Except ParseError (β × { rest : List Token // Q rest })}
    {g : α × List Token → Except ParseError (β × List Token)}
    (h : ∀ a r hr, plainly (f (a, ⟨r, hr⟩)) = g (a, r)) :
    plainly (x >>= f) = plainly x >>= g := by
  cases x with
  | error e => rfl
  | ok v => exact h v.1 v.2.1 v.2.2

/-- Passing on what is left, with another proof about it, changes nothing. -/
theorem plainly_bind_pure {α : Type} {P Q : List Token → Prop}
    {x : Except ParseError (α × { rest : List Token // P rest })}
    {f : α × { rest : List Token // P rest } →
      Except ParseError (α × { rest : List Token // Q rest })}
    (h : ∀ a r hr, plainly (f (a, ⟨r, hr⟩)) = .ok (a, r)) :
    plainly (x >>= f) = plainly x :=
  (plainly_bind (g := pure) h).trans (bind_pure _)

theorem of_plainly_eq_ok {α : Type} {P : List Token → Prop} {a : α} {r : List Token}
    {x : Except ParseError (α × { rest : List Token // P rest })}
    (h : plainly x = .ok (a, r)) : P r := by
  cases x with
  | error e => cases h
  | ok v =>
    cases h
    exact v.2.2

variable (stop : Token)

/-! ## The readers -/

def readToken (kind : TokenKind) (ts : List Token) : Except ParseError (List Token) :=
  (expect stop kind ts).map (·.1)

def readExpr (ts : List Token) : Except ParseError (Expr × List Token) :=
  plainly (parseExpr stop ts)

def readLevels (levels : List Level) (ts : List Token) : Except ParseError (Expr × List Token) :=
  plainly (parseLevels stop levels ts)

def readChain (level : Level) (tighter : List Level) (left : Expr) (ts : List Token) :
    Except ParseError (Expr × List Token) :=
  plainly (parseChain stop level tighter left ts)

def readUnary (ts : List Token) : Except ParseError (Expr × List Token) :=
  plainly (parseUnary stop ts)

def readPostfix (target : Expr) (ts : List Token) : Except ParseError (Expr × List Token) :=
  plainly (parsePostfix stop target ts)

def readPrimary (t : Token) (ts : List Token) : Except ParseError (Expr × List Token) :=
  plainly (parsePrimary stop t ts)

def readArguments (ts : List Token) : Except ParseError (List Expr × List Token) :=
  plainly (parseArguments stop ts)

def readMoreArguments (ts : List Token) : Except ParseError (List Expr × List Token) :=
  plainly (parseMoreArguments stop ts)

theorem plainly_expect_bind {β : Type} {Q : List Token → Prop} {kind : TokenKind}
    {ts : List Token} {f : Shorter ts → Except ParseError (β × { rest : List Token // Q rest })}
    {g : List Token → Except ParseError (β × List Token)}
    (h : ∀ r hr, plainly (f ⟨r, hr⟩) = g r) :
    plainly (expect stop kind ts >>= f) = readToken stop kind ts >>= g := by
  unfold readToken
  cases expect stop kind ts with
  | error e => rfl
  | ok v => exact h v.1 v.2

/-! ## What is left is shorter -/

variable {stop} {ts r : List Token}

theorem readExpr_shorter {e : Expr} (h : readExpr stop ts = .ok (e, r)) :
    r.length < ts.length :=
  of_plainly_eq_ok h

theorem readLevels_shorter {levels : List Level} {e : Expr}
    (h : readLevels stop levels ts = .ok (e, r)) : r.length < ts.length :=
  of_plainly_eq_ok h

theorem readPrimary_notLonger {t : Token} {e : Expr} (h : readPrimary stop t ts = .ok (e, r)) :
    r.length ≤ ts.length :=
  of_plainly_eq_ok h

variable (stop)

/-! ## The equations -/

theorem readToken_nil (kind : TokenKind) :
    readToken stop kind [] = .error ⟨.expected kind stop, stop.pos⟩ := rfl

theorem readToken_cons (kind : TokenKind) (t : Token) (ts : List Token) :
    readToken stop kind (t :: ts) =
      if t.kind = kind then .ok ts else .error ⟨.expected kind t, t.pos⟩ := by
  simp only [readToken, expect]
  split <;> rfl

theorem readExpr_eq (ts : List Token) :
    readExpr stop ts = (do
      let (test, r) ← readLevels stop Level.all ts
      match r with
      | [] => return (test, [])
      | t :: r =>
        if t.kind = .question then
          let (consequent, r₁) ← readExpr stop r
          let r₂ ← readToken stop .colon r₁
          let (alternate, r₃) ← readExpr stop r₂
          return (.conditional test consequent alternate, r₃)
        else return (test, t :: r)) := by
  rw [readExpr, parseExpr]
  refine plainly_bind fun test r hr => ?_
  cases r with
  | nil => rfl
  | cons t r =>
    by_cases hq : t.kind = .question
    · simp only [hq, if_true]
      refine plainly_bind fun consequent r₁ _ => ?_
      refine plainly_expect_bind stop fun r₂ _ => ?_
      exact plainly_bind fun alternate r₃ _ => rfl
    · simp only [hq, if_false]
      rfl

theorem readLevels_nil (ts : List Token) : readLevels stop [] ts = readUnary stop ts := by
  rw [readLevels, parseLevels]
  rfl

theorem readLevels_cons (level : Level) (tighter : List Level) (ts : List Token) :
    readLevels stop (level :: tighter) ts = (do
      let (left, r) ← readLevels stop tighter ts
      readChain stop level tighter left r) := by
  rw [readLevels, parseLevels]
  refine plainly_bind fun left r _ => ?_
  exact plainly_bind_pure fun _ _ _ => rfl

theorem readChain_nil (level : Level) (tighter : List Level) (left : Expr) :
    readChain stop level tighter left [] = .ok (left, []) := by
  rw [readChain, parseChain]
  rfl

theorem readChain_cons (level : Level) (tighter : List Level) (left : Expr) (t : Token)
    (ts : List Token) :
    readChain stop level tighter left (t :: ts) =
      match level.operator? t.kind with
      | none => .ok (left, t :: ts)
      | some op => (do
        let (right, r) ← readLevels stop tighter ts
        readChain stop level tighter (.binary op left right) r) := by
  rw [readChain, parseChain]
  cases level.operator? t.kind with
  | none => rfl
  | some op =>
    refine plainly_bind fun right r _ => ?_
    exact plainly_bind_pure fun _ _ _ => rfl

theorem readUnary_nil : readUnary stop [] = .error ⟨.unexpected stop, stop.pos⟩ := by
  rw [readUnary, parseUnary]
  rfl

theorem readUnary_cons (t : Token) (ts : List Token) :
    readUnary stop (t :: ts) =
      match t.kind.unaryOp? with
      | some op => do
        let (operand, r) ← readUnary stop ts
        return (.unary op operand, r)
      | none => (do
        let (e, r) ← readPrimary stop t ts
        readPostfix stop e r) := by
  rw [readUnary, parseUnary]
  cases t.kind.unaryOp? with
  | some op => exact plainly_bind fun _ _ _ => rfl
  | none =>
    refine plainly_bind fun e r _ => ?_
    exact plainly_bind_pure fun _ _ _ => rfl

theorem readPostfix_nil (target : Expr) : readPostfix stop target [] = .ok (target, []) := by
  rw [readPostfix, parsePostfix]
  rfl

theorem readPostfix_cons (target : Expr) (t : Token) (ts : List Token) :
    readPostfix stop target (t :: ts) =
      if t.kind = .dot then
        match ts with
        | [] => .error ⟨.expectedName stop, stop.pos⟩
        | name :: r =>
          if name.kind.isName then readPostfix stop (target.dot name.value) r
          else .error ⟨.expectedName name, name.pos⟩
      else if t.kind = .lbracket then do
        let (key, r₁) ← readExpr stop ts
        let r₂ ← readToken stop .rbracket r₁
        readPostfix stop (.member target key) r₂
      else .ok (target, t :: ts) := by
  rw [readPostfix, parsePostfix.eq_def]
  by_cases hd : t.kind = .dot
  · simp only [hd, if_true]
    cases ts with
    | nil => rfl
    | cons name r =>
      by_cases hn : name.kind.isName
      · simp only [hn, if_true]
        exact plainly_bind_pure fun _ _ _ => rfl
      · simp only [hn]
        rfl
  · by_cases hb : t.kind = .lbracket
    · simp only [hb, reduceCtorEq, if_false, if_true]
      refine plainly_bind fun key r₁ _ => ?_
      refine plainly_expect_bind stop fun r₂ _ => ?_
      exact plainly_bind_pure fun _ _ _ => rfl
    · simp only [hd, hb, if_false]
      rfl

theorem readPrimary_eq (t : Token) (ts : List Token) :
    readPrimary stop t ts =
      if t.kind = .lparen then do
        let (e, r₁) ← readExpr stop ts
        let r₂ ← readToken stop .rparen r₁
        return (e, r₂)
      else if t.kind = .ident then
        match ts with
        | [] => .ok (.ref t.value [], [])
        | u :: r =>
          if u.kind = .lparen then do
            let (arguments, r₁) ← readArguments stop r
            return (.call t.value arguments, r₁)
          else .ok (.ref t.value [], u :: r)
      else match t.atom? with
        | some e => .ok (e, ts)
        | none => .error ⟨.unexpected t, t.pos⟩ := by
  rw [readPrimary, parsePrimary.eq_def]
  by_cases hp : t.kind = .lparen
  · simp only [hp, if_true]
    refine plainly_bind fun e r₁ _ => ?_
    exact plainly_expect_bind stop fun r₂ _ => rfl
  · by_cases hi : t.kind = .ident
    · simp only [hi, reduceCtorEq, if_false, if_true]
      cases ts with
      | nil => rfl
      | cons u r =>
        by_cases hu : u.kind = .lparen
        · simp only [hu, if_true]
          exact plainly_bind fun arguments r₁ _ => rfl
        · simp only [hu, if_false]
          rfl
    · simp only [hp, hi, if_false]
      cases t.atom? <;> rfl

theorem readArguments_eq (ts : List Token) :
    readArguments stop ts =
      if (next stop ts).kind = .rparen then do
        let r ← readToken stop .rparen ts
        return ([], r)
      else do
        let (e, r) ← readExpr stop ts
        let (es, r') ← readMoreArguments stop r
        return (e :: es, r') := by
  rw [readArguments, parseArguments]
  by_cases hp : (next stop ts).kind = .rparen
  · simp only [hp, if_true]
    exact plainly_expect_bind stop fun r _ => rfl
  · simp only [hp, if_false]
    refine plainly_bind fun e r _ => ?_
    exact plainly_bind fun es r' _ => rfl

theorem readMoreArguments_nil :
    readMoreArguments stop [] = .error ⟨.expected .rparen stop, stop.pos⟩ := by
  rw [readMoreArguments, parseMoreArguments]
  rfl

theorem readMoreArguments_cons (t : Token) (ts : List Token) :
    readMoreArguments stop (t :: ts) =
      if t.kind = .comma then do
        let (e, r) ← readExpr stop ts
        let (es, r') ← readMoreArguments stop r
        return (e :: es, r')
      else do
        let r ← readToken stop .rparen (t :: ts)
        return ([], r) := by
  rw [readMoreArguments, parseMoreArguments]
  by_cases hc : t.kind = .comma
  · simp only [hc, if_true]
    refine plainly_bind fun e r _ => ?_
    exact plainly_bind fun es r' _ => rfl
  · simp only [hc, if_false]
    exact plainly_expect_bind stop fun r _ => rfl

theorem ofTokens_eq (ts : List Token) :
    ofTokens stop ts = (do
      let (e, rest) ← readExpr stop ts
      match rest with
      | [] => return e
      | t :: _ => throw ⟨.trailing t, t.pos⟩) := by
  unfold ofTokens readExpr
  cases parseExpr stop ts with
  | error e => rfl
  | ok v => rfl

end PageComponent.Expr
