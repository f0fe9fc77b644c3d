import PageComponent.Proofs.Expr.Grammar

/-!
# The grammar is unambiguous

A token that may follow a complete derivation is never one that could have continued it. So two
derivations that begin the same list of tokens, each followed by such a token or by nothing, are
the same derivation.
-/

namespace PageComponent

namespace BinaryOp

theorem token_injective {op op' : BinaryOp} (h : op.token = op'.token) : op = op' := by
  cases op <;> cases op' <;> simp [token] at h ⊢

end BinaryOp

namespace UnaryOp

theorem token_injective {op op' : UnaryOp} (h : op.token = op'.token) : op = op' := by
  cases op <;> cases op' <;> simp [token] at h ⊢

end UnaryOp

namespace Level

theorem eq_of_mem_operators {level level' : Level} {op : BinaryOp} (h : op ∈ level.operators)
    (h' : op ∈ level'.operators) : level = level' := by
  cases level <;> cases level' <;> grind [operators]

end Level

namespace Grammar

theorem nodup_levels : levels.Nodup := by decide

/-! ## What may follow -/

/-- Whether a token of this kind would continue an operand of the given levels. -/
def continues (levels : List Level) (kind : TokenKind) : Prop :=
  kind ∈ [TokenKind.dot, .lbracket, .lparen] ∨
    ∃ level ∈ levels, ∃ op ∈ level.operators, op.token = kind

/-- The tokens begin with none that would continue an operand. -/
def Ends (levels : List Level) (ts : List Token) : Prop :=
  ∀ t ∈ ts.head?, ¬continues levels t.kind

/-- The tokens begin with none that would continue a phrase. -/
def Closes (ts : List Token) : Prop :=
  Ends Grammar.levels ts ∧ ∀ t ∈ ts.head?, t.kind ≠ .question

@[simp] theorem ends_nil (levels : List Level) : Ends levels [] := by simp [Ends]

@[simp] theorem ends_cons {levels : List Level} {t : Token} {ts : List Token} :
    Ends levels (t :: ts) ↔ ¬continues levels t.kind := by simp [Ends]

@[simp] theorem closes_nil : Closes [] := by simp [Closes]

@[simp] theorem closes_cons {t : Token} {ts : List Token} :
    Closes (t :: ts) ↔ ¬continues Grammar.levels t.kind ∧ t.kind ≠ .question := by simp [Closes]

theorem Ends.tighter {level : Level} {tighter : List Level} {ts : List Token}
    (h : Ends (level :: tighter) ts) : Ends tighter ts := by
  intro t ht hc
  refine h t ht (hc.imp id ?_)
  exact fun ⟨l, hl, rest⟩ => ⟨l, List.mem_cons_of_mem _ hl, rest⟩

theorem continues_of_mem {level : Level} {tighter : List Level} {op : BinaryOp}
    (h : op ∈ level.operators) : continues (level :: tighter) op.token :=
  .inr ⟨level, List.mem_cons_self, op, h, rfl⟩

/-- An operator ends every operand of tighter levels. -/
theorem not_continues_tighter {level : Level} {tighter : List Level}
    (nodup : (level :: tighter).Nodup) {op : BinaryOp} (mem : op ∈ level.operators) :
    ¬continues tighter op.token := by
  rintro (h | ⟨level', hl, op', hop, ht⟩)
  · cases op <;> simp [BinaryOp.token] at h
  · obtain rfl := BinaryOp.token_injective ht
    obtain rfl := Level.eq_of_mem_operators hop mem
    exact (List.nodup_cons.mp nodup).1 hl

theorem Links.ends {level : Level} {tighter : List Level} (nodup : (level :: tighter).Nodup)
    (links : Links level tighter) {ts : List Token} (h : Ends (level :: tighter) ts) :
    Ends tighter (links.tokens ++ ts) := by
  cases links with
  | nil => exact h.tighter
  | cons op mem sign right rest =>
    simp only [Links.tokens, List.cons_append, ends_cons, sign.2]
    exact not_continues_tighter nodup mem

/-- The kinds that end a phrase inside another one. -/
theorem closes_of_kind {t : Token} {ts : List Token}
    (h : t.kind ∈ [TokenKind.colon, .rparen, .rbracket, .comma]) : Closes (t :: ts) := by
  rw [closes_cons]
  refine ⟨?_, fun hq => by simp [hq] at h⟩
  rintro (hk | ⟨level, hl, op, hop, ht⟩)
  · revert h
    generalize t.kind = k at hk
    cases k <;> simp_all
  · rw [← ht] at h
    cases op <;> simp [BinaryOp.token] at h

theorem ends_question {levels : List Level} {t : Token} {ts : List Token} (h : t.kind = .question) :
    Ends levels (t :: ts) := by
  rw [ends_cons, h]
  rintro (hk | ⟨level, hl, op, hop, ht⟩)
  · simp at hk
  · cases op <;> simp [BinaryOp.token] at ht

theorem Suffixes.ends (suffixes : Suffixes) {ts : List Token} (h : Ends [] ts) :
    ∀ t ∈ (suffixes.tokens ++ ts).head?, t.kind ≠ .lparen := by
  cases suffixes with
  | nil =>
    intro t ht hp
    exact h t ht (.inl (by simp [hp]))
  | name dot name rest => simp [Suffixes.tokens, dot.2]
  | index opening key closing rest => simp [Suffixes.tokens, opening.2]

theorem MoreArguments.closes (more : MoreArguments) {t : Token} {ts : List Token}
    (h : t.kind = .rparen) : Closes (more.tokens ++ t :: ts) := by
  cases more with
  | nil => exact closes_of_kind (by simp [h])
  | cons comma next rest => exact closes_of_kind (by simp [comma.2])

/-! ## How a derivation begins -/

/-- The kinds that begin a phrase. -/
def begins (kind : TokenKind) : Prop :=
  kind ∈ literalKinds ∨ kind = .ident ∨ kind = .lparen ∨ ∃ op : UnaryOp, op.token = kind

theorem Primary.begins (p : Primary) : ∃ t ts, p.tokens = t :: ts ∧ Grammar.begins t.kind ∧
    ∀ op : UnaryOp, op.token ≠ t.kind := by
  cases p with
  | literal t =>
    refine ⟨t.1, [], rfl, .inl t.2, fun op h => ?_⟩
    have := t.2
    rw [← h] at this
    cases op <;> simp [UnaryOp.token, literalKinds] at this
  | ident t =>
    refine ⟨t.1, [], rfl, .inr (.inl t.2), fun op h => ?_⟩
    cases op <;> simp [UnaryOp.token, t.2] at h
  | group opening inner closing =>
    refine ⟨opening.1, _, rfl, .inr (.inr (.inl opening.2)), fun op h => ?_⟩
    cases op <;> simp [UnaryOp.token, opening.2] at h
  | call function opening arguments closing =>
    refine ⟨function.1, _, rfl, .inr (.inl function.2), fun op h => ?_⟩
    cases op <;> simp [UnaryOp.token, function.2] at h

theorem Prefixed.begins (u : Prefixed) : ∃ t ts, u.tokens = t :: ts ∧ Grammar.begins t.kind := by
  cases u with
  | sign op sign operand =>
    exact ⟨sign.1, _, rfl, .inr (.inr (.inr ⟨op, sign.2.symm⟩))⟩
  | bare primary suffixes =>
    obtain ⟨t, ts, ht, hb, _⟩ := primary.begins
    exact ⟨t, ts ++ suffixes.tokens, by simp [Prefixed.tokens, ht], hb⟩

theorem Operand.begins {levels : List Level} (o : Operand levels) :
    ∃ t ts, o.tokens = t :: ts ∧ Grammar.begins t.kind := by
  induction levels with
  | nil =>
    cases o with
    | tightest u => exact u.begins
  | cons level tighter ih =>
    cases o with
    | chain first links =>
      obtain ⟨t, ts, ht, hb⟩ := ih first
      exact ⟨t, ts ++ links.tokens, by simp [Operand.tokens, ht], hb⟩

theorem Phrase.begins (p : Phrase) : ∃ t ts, p.tokens = t :: ts ∧ Grammar.begins t.kind := by
  cases p with
  | plain test => exact test.begins
  | conditional test question consequent colon alternate =>
    obtain ⟨t, ts, ht, hb⟩ := test.begins
    exact ⟨t, _, by rw [Phrase.tokens, ht, List.cons_append], hb⟩

theorem not_begins_rparen : ¬begins .rparen := by
  rintro (h | h | h | ⟨op, h⟩)
  · simp [literalKinds] at h
  · cases h
  · cases h
  · cases op <;> simp [UnaryOp.token] at h

/-! ## The first token tells the production -/

section Inversion

variable {ts r s : List Token}

theorem Links.eq_nil {level : Level} {tighter : List Level} {l : Links level tighter}
    (h : r = l.tokens ++ s) (hr : Ends (level :: tighter) r) : l = .nil ∧ r = s := by
  cases l with
  | nil => exact ⟨rfl, h⟩
  | cons op mem sign right rest =>
    subst h
    exact absurd (continues_of_mem mem) (sign.2 ▸ ends_cons.mp hr)

theorem Links.eq_cons {level : Level} {tighter : List Level} {l : Links level tighter}
    {op : BinaryOp} (mem : op ∈ level.operators) (sign : Terminal op.token)
    (h : sign.1 :: ts = l.tokens ++ s) (hs : Ends (level :: tighter) s) :
    ∃ right rest, l = .cons op mem sign right rest ∧ ts = right.tokens ++ (rest.tokens ++ s) := by
  cases l with
  | nil =>
    subst h
    exact absurd (continues_of_mem mem) (sign.2 ▸ ends_cons.mp hs)
  | cons op' mem' sign' right rest =>
    simp only [Links.tokens, List.append_assoc, List.cons_append] at h
    obtain ⟨hsign, hts⟩ := List.cons_eq_cons.mp h
    obtain rfl : op = op' := BinaryOp.token_injective (by rw [← sign.2, ← sign'.2, hsign])
    obtain rfl : sign = sign' := Subtype.ext hsign
    exact ⟨right, rest, rfl, hts⟩

theorem Prefixed.eq_sign {u : Prefixed} {op : UnaryOp} (sign : Terminal op.token)
    (h : sign.1 :: ts = u.tokens ++ s) :
    ∃ operand, u = .sign op sign operand ∧ ts = operand.tokens ++ s := by
  cases u with
  | sign op' sign' operand =>
    obtain ⟨hsign, hts⟩ := List.cons_eq_cons.mp h
    obtain rfl : op = op' := UnaryOp.token_injective (by rw [← sign.2, ← sign'.2, hsign])
    obtain rfl : sign = sign' := Subtype.ext hsign
    exact ⟨operand, rfl, hts⟩
  | bare primary suffixes =>
    obtain ⟨t, ts, ht, -, hop⟩ := primary.begins
    simp only [Prefixed.tokens, ht, List.cons_append] at h
    obtain ⟨rfl, -⟩ := List.cons_eq_cons.mp h
    exact absurd sign.2.symm (hop op)

theorem Prefixed.eq_bare {u : Prefixed} {primary : Primary}
    (h : primary.tokens ++ r = u.tokens ++ s) :
    ∃ primary' suffixes, u = .bare primary' suffixes ∧
      primary.tokens ++ r = primary'.tokens ++ (suffixes.tokens ++ s) := by
  cases u with
  | sign op sign operand =>
    obtain ⟨t, ts, ht, -, hop⟩ := primary.begins
    simp only [Prefixed.tokens, ht, List.cons_append] at h
    obtain ⟨rfl, -⟩ := List.cons_eq_cons.mp h
    exact absurd sign.2.symm (hop op)
  | bare primary' suffixes => exact ⟨primary', suffixes, rfl, by simpa [Prefixed.tokens] using h⟩

theorem Suffixes.eq_nil {x : Suffixes} (h : r = x.tokens ++ s) (hr : Ends [] r) :
    x = .nil ∧ r = s := by
  cases x with
  | nil => exact ⟨rfl, h⟩
  | name dot name rest =>
    subst h
    exact absurd (.inl (by simp [dot.2])) (ends_cons.mp hr)
  | index opening key closing rest =>
    subst h
    exact absurd (.inl (by simp [opening.2])) (ends_cons.mp hr)

theorem Suffixes.eq_name {x : Suffixes} (dot : Terminal .dot) (name : OneOf nameKinds)
    (h : dot.1 :: name.1 :: ts = x.tokens ++ s) (hs : Ends [] s) :
    ∃ rest, x = .name dot name rest ∧ ts = rest.tokens ++ s := by
  cases x with
  | nil =>
    subst h
    exact absurd (.inl (by simp [dot.2])) (ends_cons.mp hs)
  | name dot' name' rest =>
    obtain ⟨hd, hts⟩ := List.cons_eq_cons.mp h
    obtain ⟨hn, hrest⟩ := List.cons_eq_cons.mp hts
    obtain rfl : dot = dot' := Subtype.ext hd
    obtain rfl : name = name' := Subtype.ext hn
    exact ⟨rest, rfl, hrest⟩
  | index opening key closing rest =>
    have := congrArg Token.kind (List.cons_eq_cons.mp h).1
    simp [dot.2, opening.2] at this

theorem Suffixes.eq_index {x : Suffixes} (opening : Terminal .lbracket)
    (h : opening.1 :: ts = x.tokens ++ s) (hs : Ends [] s) :
    ∃ key closing rest, x = .index opening key closing rest ∧
      ts = key.tokens ++ closing.1 :: (rest.tokens ++ s) := by
  cases x with
  | nil =>
    subst h
    exact absurd (.inl (by simp [opening.2])) (ends_cons.mp hs)
  | name dot name rest =>
    have := congrArg Token.kind (List.cons_eq_cons.mp h).1
    simp [dot.2, opening.2] at this
  | index opening' key closing rest =>
    simp only [Suffixes.tokens, List.append_assoc, List.cons_append] at h
    obtain ⟨ho, hts⟩ := List.cons_eq_cons.mp h
    obtain rfl : opening = opening' := Subtype.ext ho
    exact ⟨key, closing, rest, rfl, hts⟩

theorem Primary.eq_literal {p : Primary} (t : OneOf literalKinds) (h : t.1 :: r = p.tokens ++ s) :
    p = .literal t ∧ r = s := by
  have ht := t.2
  cases p with
  | literal t' =>
    obtain ⟨hk, hr⟩ := List.cons_eq_cons.mp h
    obtain rfl : t = t' := Subtype.ext hk
    exact ⟨rfl, hr⟩
  | ident t' => simp [(List.cons_eq_cons.mp h).1, t'.2, literalKinds] at ht
  | group opening inner closing =>
    simp [(List.cons_eq_cons.mp h).1, opening.2, literalKinds] at ht
  | call function opening arguments closing =>
    simp [(List.cons_eq_cons.mp h).1, function.2, literalKinds] at ht

theorem Primary.eq_ident {p : Primary} (t : Terminal .ident) (h : t.1 :: r = p.tokens ++ s)
    (hr : ∀ u ∈ r.head?, u.kind ≠ .lparen) : p = .ident t ∧ r = s := by
  have ht := t.2
  cases p with
  | literal t' =>
    have := t'.2
    simp [← (List.cons_eq_cons.mp h).1, ht, literalKinds] at this
  | ident t' =>
    obtain ⟨hk, hr⟩ := List.cons_eq_cons.mp h
    obtain rfl : t = t' := Subtype.ext hk
    exact ⟨rfl, hr⟩
  | group opening inner closing => simp [(List.cons_eq_cons.mp h).1, opening.2] at ht
  | call function opening arguments closing =>
    obtain rfl := (List.cons_eq_cons.mp h).2
    simp [opening.2] at hr

theorem Primary.eq_group {p : Primary} (opening : Terminal .lparen)
    (h : opening.1 :: ts = p.tokens ++ s) :
    ∃ inner closing, p = .group opening inner closing ∧ ts = inner.tokens ++ closing.1 :: s := by
  have ho := opening.2
  cases p with
  | literal t =>
    have := t.2
    simp [← (List.cons_eq_cons.mp h).1, ho, literalKinds] at this
  | ident t => simp [(List.cons_eq_cons.mp h).1, t.2] at ho
  | group opening' inner closing =>
    simp only [Primary.tokens, List.append_assoc, List.cons_append, List.nil_append] at h
    obtain ⟨ho, hts⟩ := List.cons_eq_cons.mp h
    obtain rfl : opening = opening' := Subtype.ext ho
    exact ⟨inner, closing, rfl, hts⟩
  | call function opening' arguments closing => simp [(List.cons_eq_cons.mp h).1, function.2] at ho

theorem Primary.eq_call {p : Primary} (function : Terminal .ident) (opening : Terminal .lparen)
    (h : function.1 :: opening.1 :: ts = p.tokens ++ s) (hs : ∀ u ∈ s.head?, u.kind ≠ .lparen) :
    ∃ arguments closing, p = .call function opening arguments closing ∧
      ts = arguments.tokens ++ closing.1 :: s := by
  have hf := function.2
  cases p with
  | literal t =>
    have := t.2
    simp [← (List.cons_eq_cons.mp h).1, hf, literalKinds] at this
  | ident t =>
    obtain rfl := (List.cons_eq_cons.mp h).2
    simp [opening.2] at hs
  | group opening' inner closing => simp [(List.cons_eq_cons.mp h).1, opening'.2] at hf
  | call function' opening' arguments closing =>
    simp only [Primary.tokens, List.append_assoc, List.cons_append, List.nil_append] at h
    obtain ⟨hf, hts⟩ := List.cons_eq_cons.mp h
    obtain ⟨ho, hrest⟩ := List.cons_eq_cons.mp hts
    obtain rfl : function = function' := Subtype.ext hf
    obtain rfl : opening = opening' := Subtype.ext ho
    exact ⟨arguments, closing, rfl, hrest⟩

variable {t u : Token}

theorem Arguments.eq_none {x : Arguments} (h : t :: r = x.tokens ++ u :: s)
    (ht : t.kind = .rparen) : x = .none ∧ t = u ∧ r = s := by
  cases x with
  | none => exact ⟨rfl, List.cons_eq_cons.mp h⟩
  | some first more =>
    obtain ⟨v, ts, hv, hb⟩ := first.begins
    simp only [Arguments.tokens, hv, List.cons_append] at h
    rw [← (List.cons_eq_cons.mp h).1, ht] at hb
    exact absurd hb not_begins_rparen

theorem Arguments.eq_some {x : Arguments} {first : Phrase}
    (h : first.tokens ++ r = x.tokens ++ u :: s) (hu : u.kind = .rparen) :
    ∃ first' more, x = .some first' more ∧
      first.tokens ++ r = first'.tokens ++ (more.tokens ++ u :: s) := by
  cases x with
  | none =>
    obtain ⟨v, ts, hv, hb⟩ := first.begins
    rw [hv] at h
    rw [(List.cons_eq_cons.mp h).1, hu] at hb
    exact absurd hb not_begins_rparen
  | some first' more => exact ⟨first', more, rfl, by simpa [Arguments.tokens] using h⟩

theorem MoreArguments.eq_nil {x : MoreArguments} (h : t :: r = x.tokens ++ u :: s)
    (ht : t.kind = .rparen) : x = .nil ∧ t = u ∧ r = s := by
  cases x with
  | nil => exact ⟨rfl, List.cons_eq_cons.mp h⟩
  | cons comma next rest => simp [(List.cons_eq_cons.mp h).1, comma.2] at ht

theorem MoreArguments.eq_cons {x : MoreArguments} (comma : Terminal .comma)
    (h : comma.1 :: ts = x.tokens ++ u :: s) (hu : u.kind = .rparen) :
    ∃ next rest, x = .cons comma next rest ∧ ts = next.tokens ++ (rest.tokens ++ u :: s) := by
  cases x with
  | nil => simp [← (List.cons_eq_cons.mp h).1, comma.2] at hu
  | cons comma' next rest =>
    simp only [MoreArguments.tokens, List.append_assoc, List.cons_append] at h
    obtain ⟨hc, hts⟩ := List.cons_eq_cons.mp h
    obtain rfl : comma = comma' := Subtype.ext hc
    exact ⟨next, rest, rfl, hts⟩

end Inversion

/-! ## Unique derivations -/

mutual

theorem Phrase.unique (p q : Phrase) {r s : List Token} (h : p.tokens ++ r = q.tokens ++ s)
    (hr : Closes r) (hs : Closes s) : p = q ∧ r = s := by
  cases p with
  | plain test =>
    cases q with
    | plain test' =>
      obtain ⟨rfl, rfl⟩ := Operand.unique test test' nodup_levels h hr.1 hs.1
      exact ⟨rfl, rfl⟩
    | conditional test' question consequent colon alternate =>
      simp only [Phrase.tokens, List.append_assoc, List.cons_append] at h
      obtain ⟨-, rfl⟩ :=
        Operand.unique test test' nodup_levels h hr.1 (ends_question question.2)
      exact absurd question.2 (closes_cons.mp hr).2
  | conditional test question consequent colon alternate =>
    cases q with
    | plain test' =>
      simp only [Phrase.tokens, List.append_assoc, List.cons_append] at h
      obtain ⟨-, rfl⟩ :=
        Operand.unique test test' nodup_levels h (ends_question question.2) hs.1
      exact absurd question.2 (closes_cons.mp hs).2
    | conditional test' question' consequent' colon' alternate' =>
      simp only [Phrase.tokens, List.append_assoc, List.cons_append] at h
      obtain ⟨rfl, h₁⟩ := Operand.unique test test' nodup_levels h (ends_question question.2)
        (ends_question question'.2)
      obtain ⟨hq, h₂⟩ := List.cons_eq_cons.mp h₁
      obtain ⟨rfl, h₃⟩ := Phrase.unique consequent consequent' h₂
        (closes_of_kind (by simp [colon.2])) (closes_of_kind (by simp [colon'.2]))
      obtain ⟨hc, h₄⟩ := List.cons_eq_cons.mp h₃
      obtain ⟨rfl, rfl⟩ := Phrase.unique alternate alternate' h₄ hr hs
      rw [Subtype.ext hq, Subtype.ext hc]
      exact ⟨rfl, rfl⟩
termination_by structural p

theorem Operand.unique {levels : List Level} (o o' : Operand levels) (nodup : levels.Nodup)
    {r s : List Token} (h : o.tokens ++ r = o'.tokens ++ s) (hr : Ends levels r)
    (hs : Ends levels s) : o = o' ∧ r = s := by
  match levels, o, o' with
  | [], .tightest u, .tightest u' =>
    obtain ⟨rfl, rfl⟩ := Prefixed.unique u u' h hr hs
    exact ⟨rfl, rfl⟩
  | _ :: _, .chain first links, .chain first' links' =>
    simp only [Operand.tokens, List.append_assoc] at h
    obtain ⟨rfl, h₁⟩ := Operand.unique first first' (List.nodup_cons.mp nodup).2 h
      (links.ends nodup hr) (links'.ends nodup hs)
    obtain ⟨rfl, rfl⟩ := Links.unique links links' nodup h₁ hr hs
    exact ⟨rfl, rfl⟩
termination_by structural o

theorem Links.unique {level : Level} {tighter : List Level} (l l' : Links level tighter)
    (nodup : (level :: tighter).Nodup) {r s : List Token} (h : l.tokens ++ r = l'.tokens ++ s)
    (hr : Ends (level :: tighter) r) (hs : Ends (level :: tighter) s) : l = l' ∧ r = s := by
  match l with
  | .nil => exact (Links.eq_nil h hr).imp_left Eq.symm
  | .cons op mem sign right rest =>
    simp only [Links.tokens, List.append_assoc, List.cons_append] at h
    obtain ⟨right', rest', rfl, h₁⟩ := Links.eq_cons mem sign h hs
    obtain ⟨rfl, h₂⟩ := Operand.unique right right' (List.nodup_cons.mp nodup).2 h₁
      (rest.ends nodup hr) (rest'.ends nodup hs)
    obtain ⟨rfl, rfl⟩ := Links.unique rest rest' nodup h₂ hr hs
    exact ⟨rfl, rfl⟩
termination_by structural l

theorem Prefixed.unique (u u' : Prefixed) {r s : List Token} (h : u.tokens ++ r = u'.tokens ++ s)
    (hr : Ends [] r) (hs : Ends [] s) : u = u' ∧ r = s := by
  cases u with
  | sign op sign operand =>
    obtain ⟨operand', rfl, h₁⟩ := Prefixed.eq_sign sign h
    obtain ⟨rfl, rfl⟩ := Prefixed.unique operand operand' h₁ hr hs
    exact ⟨rfl, rfl⟩
  | bare primary suffixes =>
    simp only [Prefixed.tokens, List.append_assoc] at h
    obtain ⟨primary', suffixes', rfl, h₁⟩ := Prefixed.eq_bare h
    obtain ⟨rfl, h₂⟩ := Primary.unique primary primary' h₁ (suffixes.ends hr) (suffixes'.ends hs)
    obtain ⟨rfl, rfl⟩ := Suffixes.unique suffixes suffixes' h₂ hr hs
    exact ⟨rfl, rfl⟩
termination_by structural u

theorem Suffixes.unique (x y : Suffixes) {r s : List Token} (h : x.tokens ++ r = y.tokens ++ s)
    (hr : Ends [] r) (hs : Ends [] s) : x = y ∧ r = s := by
  cases x with
  | nil => exact (Suffixes.eq_nil h hr).imp_left Eq.symm
  | name dot name rest =>
    obtain ⟨rest', rfl, h₁⟩ := Suffixes.eq_name dot name h hs
    obtain ⟨rfl, rfl⟩ := Suffixes.unique rest rest' h₁ hr hs
    exact ⟨rfl, rfl⟩
  | index opening key closing rest =>
    simp only [Suffixes.tokens, List.append_assoc, List.cons_append] at h
    obtain ⟨key', closing', rest', rfl, h₁⟩ := Suffixes.eq_index opening h hs
    obtain ⟨rfl, h₂⟩ := Phrase.unique key key' h₁ (closes_of_kind (by simp [closing.2]))
      (closes_of_kind (by simp [closing'.2]))
    obtain ⟨hc, h₃⟩ := List.cons_eq_cons.mp h₂
    obtain ⟨rfl, rfl⟩ := Suffixes.unique rest rest' h₃ hr hs
    rw [Subtype.ext hc]
    exact ⟨rfl, rfl⟩
termination_by structural x

theorem Primary.unique (p q : Primary) {r s : List Token} (h : p.tokens ++ r = q.tokens ++ s)
    (hr : ∀ t ∈ r.head?, t.kind ≠ .lparen) (hs : ∀ t ∈ s.head?, t.kind ≠ .lparen) :
    p = q ∧ r = s := by
  cases p with
  | literal t => exact (Primary.eq_literal t h).imp_left Eq.symm
  | ident t => exact (Primary.eq_ident t h hr).imp_left Eq.symm
  | group opening inner closing =>
    simp only [Primary.tokens, List.append_assoc, List.cons_append, List.nil_append] at h
    obtain ⟨inner', closing', rfl, h₁⟩ := Primary.eq_group opening h
    obtain ⟨rfl, h₂⟩ := Phrase.unique inner inner' h₁ (closes_of_kind (by simp [closing.2]))
      (closes_of_kind (by simp [closing'.2]))
    obtain ⟨hc, rfl⟩ := List.cons_eq_cons.mp h₂
    rw [Subtype.ext hc]
    exact ⟨rfl, rfl⟩
  | call function opening arguments closing =>
    simp only [Primary.tokens, List.append_assoc, List.cons_append, List.nil_append] at h
    obtain ⟨arguments', closing', rfl, h₁⟩ := Primary.eq_call function opening h hs
    obtain ⟨rfl, hc, rfl⟩ := Arguments.unique arguments arguments' h₁ closing.2 closing'.2
    rw [Subtype.ext hc]
    exact ⟨rfl, rfl⟩
termination_by structural p

theorem Arguments.unique (x y : Arguments) {t u : Token} {r s : List Token}
    (h : x.tokens ++ t :: r = y.tokens ++ u :: s) (ht : t.kind = .rparen) (hu : u.kind = .rparen) :
    x = y ∧ t = u ∧ r = s := by
  cases x with
  | none => exact (Arguments.eq_none h ht).imp_left Eq.symm
  | some first more =>
    simp only [Arguments.tokens, List.append_assoc] at h
    obtain ⟨first', more', rfl, h₁⟩ := Arguments.eq_some h hu
    obtain ⟨rfl, h₂⟩ := Phrase.unique first first' h₁ (more.closes ht) (more'.closes hu)
    obtain ⟨rfl, rfl, rfl⟩ := MoreArguments.unique more more' h₂ ht hu
    exact ⟨rfl, rfl, rfl⟩
termination_by structural x

theorem MoreArguments.unique (x y : MoreArguments) {t u : Token} {r s : List Token}
    (h : x.tokens ++ t :: r = y.tokens ++ u :: s) (ht : t.kind = .rparen) (hu : u.kind = .rparen) :
    x = y ∧ t = u ∧ r = s := by
  cases x with
  | nil => exact (MoreArguments.eq_nil h ht).imp_left Eq.symm
  | cons comma next rest =>
    simp only [MoreArguments.tokens, List.append_assoc, List.cons_append] at h
    obtain ⟨next', rest', rfl, h₁⟩ := MoreArguments.eq_cons comma h hu
    obtain ⟨rfl, h₂⟩ := Phrase.unique next next' h₁ (rest.closes ht) (rest'.closes hu)
    obtain ⟨rfl, rfl, rfl⟩ := MoreArguments.unique rest rest' h₂ ht hu
    exact ⟨rfl, rfl, rfl⟩
termination_by structural x

end

theorem Phrase.tokens_injective : Function.Injective Phrase.tokens := by
  intro p q h
  exact (Phrase.unique p q (r := []) (s := []) (by simpa using h) closes_nil closes_nil).1

end Grammar

end PageComponent
