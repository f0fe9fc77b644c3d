import PageComponent.Proofs.Expr.Scanning

/-!
# The sources that are expressions

A source is parsed exactly if its tokens are those of a derivation, which is then the only one, and
the outcome is the expression of that derivation.
-/

namespace PageComponent

namespace Grammar

/-! ## Calls -/

mutual

/-- The names of the functions that a derivation calls, from left to right. -/
def Phrase.calls : Phrase → List Token
  | .plain test => test.calls
  | .conditional test _ consequent _ alternate =>
    test.calls ++ (consequent.calls ++ alternate.calls)

def Operand.calls : {levels : List Level} → Operand levels → List Token
  | _, .tightest u => u.calls
  | _, .chain first links => first.calls ++ links.calls

def Links.calls : {level : Level} → {tighter : List Level} → Links level tighter → List Token
  | _, _, .nil => []
  | _, _, .cons _ _ _ right rest => right.calls ++ rest.calls

def Prefixed.calls : Prefixed → List Token
  | .sign _ _ operand => operand.calls
  | .bare primary suffixes => primary.calls ++ suffixes.calls

def Suffixes.calls : Suffixes → List Token
  | .nil => []
  | .name _ _ rest => rest.calls
  | .index _ key _ rest => key.calls ++ rest.calls

def Primary.calls : Primary → List Token
  | .literal _ | .ident _ => []
  | .group _ inner _ => inner.calls
  | .call function _ arguments _ => function.1 :: arguments.calls

def Arguments.calls : Arguments → List Token
  | .none => []
  | .some first more => first.calls ++ more.calls

def MoreArguments.calls : MoreArguments → List Token
  | .nil => []
  | .cons _ next rest => next.calls ++ rest.calls

end

/-- The identifiers that an opening parenthesis directly follows. -/
def applied : List Token → List Token
  | [] => []
  | t :: ts =>
    if t.kind = .ident ∧ ts.head?.map Token.kind = some .lparen then t :: applied ts
    else applied ts

@[simp] theorem applied_singleton (t : Token) : applied [t] = [] := by
  simp [applied]

theorem applied_cons_of_ne {t : Token} {ts : List Token} (h : t.kind ≠ .ident) :
    applied (t :: ts) = applied ts := by
  simp [applied, h]

theorem applied_cons_cons (t u : Token) (ts : List Token) :
    applied (t :: u :: ts) =
      if t.kind = .ident ∧ u.kind = .lparen then t :: applied (u :: ts) else applied (u :: ts) := by
  rw [applied]
  simp only [List.head?_cons, Option.map_some, Option.some.injEq]

theorem applied_append {ts us : List Token} (h : us.head?.map Token.kind ≠ some .lparen) :
    applied (ts ++ us) = applied ts ++ applied us := by
  induction ts with
  | nil => rfl
  | cons t ts ih =>
    cases ts with
    | nil => simp [applied, h]
    | cons t' ts =>
      rw [List.cons_append, List.cons_append, applied_cons_cons, applied_cons_cons,
        ← List.cons_append, ih]
      split <;> rfl

theorem Links.head_ne {level : Level} {tighter : List Level} (links : Links level tighter) :
    links.tokens.head?.map Token.kind ≠ some .lparen := by
  cases links with
  | nil => nofun
  | cons op mem sign right rest =>
    simp only [Links.tokens, List.head?_cons, Option.map_some, sign.2]
    cases op <;> nofun

theorem Suffixes.head_ne (suffixes : Suffixes) :
    suffixes.tokens.head?.map Token.kind ≠ some .lparen := by
  cases suffixes with
  | nil => nofun
  | name dot name rest => simp [Suffixes.tokens, dot.2]
  | index opening key closing rest => simp [Suffixes.tokens, opening.2]

theorem MoreArguments.head_ne (more : MoreArguments) :
    more.tokens.head?.map Token.kind ≠ some .lparen := by
  cases more with
  | nil => nofun
  | cons comma next rest => simp [MoreArguments.tokens, comma.2]

theorem head_ne_of_kind {kind : TokenKind} (t : Terminal kind) (ts : List Token)
    (h : kind ≠ .lparen) : (t.1 :: ts).head?.map Token.kind ≠ some .lparen := by
  simpa [t.2] using h

theorem applied_terminal {kind : TokenKind} (t : Terminal kind) (ts : List Token)
    (h : kind ≠ .ident) : applied (t.1 :: ts) = applied ts :=
  applied_cons_of_ne (by rwa [t.2])

mutual

theorem Phrase.applied_tokens (p : Phrase) : applied p.tokens = p.calls := by
  match p with
  | .plain test => exact test.applied_tokens
  | .conditional test question consequent colon alternate =>
    rw [Phrase.tokens, applied_append (head_ne_of_kind question _ nofun),
      applied_terminal question _ nofun, applied_append (head_ne_of_kind colon _ nofun),
      applied_terminal colon _ nofun, test.applied_tokens, consequent.applied_tokens,
      alternate.applied_tokens, Phrase.calls]
termination_by structural p

theorem Operand.applied_tokens {levels : List Level} (o : Operand levels) :
    applied o.tokens = o.calls := by
  match o with
  | .tightest u => exact u.applied_tokens
  | .chain first links =>
    rw [Operand.tokens, applied_append links.head_ne, first.applied_tokens, links.applied_tokens,
      Operand.calls]
termination_by structural o

theorem Links.applied_tokens {level : Level} {tighter : List Level} (l : Links level tighter) :
    applied l.tokens = l.calls := by
  match l with
  | .nil => rfl
  | .cons op mem sign right rest =>
    have hop : op.token ≠ .ident := by cases op <;> nofun
    rw [Links.tokens, applied_terminal sign _ hop, applied_append rest.head_ne,
      right.applied_tokens, rest.applied_tokens, Links.calls]
termination_by structural l

theorem Prefixed.applied_tokens (u : Prefixed) : applied u.tokens = u.calls := by
  match u with
  | .sign op sign operand =>
    have hop : op.token ≠ .ident := by cases op <;> nofun
    rw [Prefixed.tokens, applied_terminal sign _ hop, operand.applied_tokens, Prefixed.calls]
  | .bare primary suffixes =>
    rw [Prefixed.tokens, applied_append suffixes.head_ne, primary.applied_tokens,
      suffixes.applied_tokens, Prefixed.calls]
termination_by structural u

theorem Suffixes.applied_tokens (x : Suffixes) : applied x.tokens = x.calls := by
  match x with
  | .nil => rfl
  | .name dot name rest =>
    have hname : applied (name.1 :: rest.tokens) = applied [name.1] ++ applied rest.tokens :=
      @applied_append [name.1] _ rest.head_ne
    rw [Suffixes.tokens, applied_terminal dot _ nofun, hname, applied_singleton, List.nil_append,
      rest.applied_tokens, Suffixes.calls]
  | .index opening key closing rest =>
    rw [Suffixes.tokens, applied_terminal opening _ nofun,
      applied_append (head_ne_of_kind closing _ nofun), applied_terminal closing _ nofun,
      key.applied_tokens, rest.applied_tokens, Suffixes.calls]
termination_by structural x

theorem Primary.applied_tokens (p : Primary) : applied p.tokens = p.calls := by
  match p with
  | .literal t => exact applied_singleton t.1
  | .ident t => exact applied_singleton t.1
  | .group opening inner closing =>
    rw [Primary.tokens, applied_terminal opening _ nofun,
      applied_append (head_ne_of_kind closing _ nofun), applied_singleton, List.append_nil,
      inner.applied_tokens, Primary.calls]
  | .call function opening arguments closing =>
    rw [Primary.tokens, applied, if_pos ⟨function.2, by simp [opening.2]⟩,
      applied_terminal opening _ nofun, applied_append (head_ne_of_kind closing _ nofun),
      applied_singleton, List.append_nil, arguments.applied_tokens, Primary.calls]
termination_by structural p

theorem Arguments.applied_tokens (x : Arguments) : applied x.tokens = x.calls := by
  match x with
  | .none => rfl
  | .some first more =>
    rw [Arguments.tokens, applied_append more.head_ne, first.applied_tokens, more.applied_tokens,
      Arguments.calls]
termination_by structural x

theorem MoreArguments.applied_tokens (x : MoreArguments) : applied x.tokens = x.calls := by
  match x with
  | .nil => rfl
  | .cons comma next rest =>
    rw [MoreArguments.tokens, applied_terminal comma _ nofun, applied_append rest.head_ne,
      next.applied_tokens, rest.applied_tokens, MoreArguments.calls]
termination_by structural x

end

end Grammar

namespace Expr

open PageComponent.Grammar

variable {source : String}

theorem parse_of_tokens {p : Phrase} (h : Token.ofSource source = .ok p.tokens) :
    parse source = .ok p.expr := by
  have good := faithful_of_spelled (Token.spelled_of_ofSource h)
  have hread := @Phrase.complete (.stop source) [] p good closes_nil
  rw [List.append_nil] at hread
  simp only [parse, h, ofTokens_eq, hread]
  rfl

theorem tokens_of_parse {e : Expr} (h : parse source = .ok e) :
    ∃ p : Phrase, Token.ofSource source = .ok p.tokens ∧ p.expr = e := by
  unfold parse at h
  split at h
  next ts hts =>
    rw [ofTokens_eq] at h
    obtain ⟨⟨e', rest⟩, hread, h⟩ := bind_eq_ok.mp h
    have good := faithful_of_spelled (Token.spelled_of_ofSource hts)
    obtain ⟨p, hp, htokens⟩ := readExpr_sound ts good hread
    cases rest with
    | nil =>
      cases h
      exact ⟨p, by rw [hts, htokens, List.append_nil], hp⟩
    | cons t rest => cases h
  next => cases h

/-- Parsing decides the grammar: it succeeds with the expression of the one derivation that has the
tokens of the source, and fails if there is none. An identifier before an opening parenthesis is
always the name of a called function. -/
theorem parse_eq_ok_iff_derivation (source : String) :
    (∀ e : Expr, parse source = .ok e ↔
      ∃ p : Phrase, Token.ofSource source = .ok p.tokens ∧ p.expr = e) ∧
    (∀ p q : Phrase, p.tokens = q.tokens → p = q) ∧
    (∀ p : Phrase, applied p.tokens = p.calls) ∧
    ((∃ fault : ParseError, parse source = .error fault) ↔
      ¬∃ p : Phrase, Token.ofSource source = .ok p.tokens) := by
  refine ⟨fun e => ⟨tokens_of_parse, ?_⟩, fun p q h => Phrase.tokens_injective h,
    Phrase.applied_tokens, ?_⟩
  · rintro ⟨p, h, rfl⟩
    exact parse_of_tokens h
  · constructor
    · rintro ⟨fault, hfault⟩ ⟨p, h⟩
      rw [parse_of_tokens h] at hfault
      cases hfault
    · intro none
      cases h : parse source with
      | error fault => exact ⟨fault, rfl⟩
      | ok e =>
        obtain ⟨p, hp, -⟩ := tokens_of_parse h
        exact absurd ⟨p, hp⟩ none

end Expr

end PageComponent
