import PageComponent.Proofs.Expr.Reading
import PageComponent.Proofs.Expr.Unambiguous
import PageComponent.Proofs.Outcome

/-!
# The parser decides the grammar

Soundness follows the calls of the readers: what they read is the list of tokens of a derivation.
Completeness follows the derivation: a reader gives back its expression and stops behind it, because
what follows does not continue it.
-/

namespace PageComponent

namespace Level

theorem all_eq_levels : Level.all = Grammar.levels := rfl

theorem operator?_eq_some_iff {level : Level} {kind : TokenKind} {op : BinaryOp} :
    level.operator? kind = some op ↔ op ∈ level.operators ∧ op.token = kind := by
  constructor
  · intro h
    cases level <;> cases kind <;> simp [operator?] at h <;> subst h <;>
      simp [operators, BinaryOp.token]
  · rintro ⟨mem, rfl⟩
    cases level <;> simp only [operators, List.mem_cons, List.not_mem_nil, or_false] at mem <;>
      rcases mem with rfl | rfl | rfl | rfl <;> rfl

end Level

namespace TokenKind

theorem unaryOp?_eq_some_iff {kind : TokenKind} {op : UnaryOp} :
    kind.unaryOp? = some op ↔ op.token = kind := by
  constructor
  · intro h
    cases kind <;> simp [unaryOp?] at h <;> subst h <;> rfl
  · rintro rfl
    cases op <;> rfl

theorem isName_iff {kind : TokenKind} : kind.isName = true ↔ kind ∈ Grammar.nameKinds := by
  cases kind <;> simp [isName, Grammar.nameKinds]

end TokenKind

namespace Grammar

open PageComponent.Expr

/-- Every literal token among these is read as what it denotes. -/
def Faithful (ts : List Token) : Prop :=
  ∀ t ∈ ts, t.kind ∈ literalKinds → t.atom? = some (denotes t)

theorem Faithful.tail {t : Token} {ts : List Token} (h : Faithful (t :: ts)) : Faithful ts :=
  fun u hu => h u (List.mem_cons_of_mem _ hu)

theorem Faithful.right {ts r : List Token} (h : Faithful (ts ++ r)) : Faithful r :=
  fun u hu => h u (List.mem_append_right _ hu)

theorem readToken_eq_ok {stop : Token} {kind : TokenKind} {ts r : List Token} :
    readToken stop kind ts = .ok r ↔ ∃ t : Terminal kind, ts = t.1 :: r := by
  cases ts with
  | nil => simp [readToken_nil]
  | cons t ts =>
    rw [readToken_cons]
    by_cases hk : t.kind = kind
    · simp only [hk, if_true, Except.ok.injEq]
      constructor
      · rintro rfl
        exact ⟨⟨t, hk⟩, rfl⟩
      · rintro ⟨u, hu⟩
        exact (List.cons_eq_cons.mp hu).2
    · simp only [hk, if_false, reduceCtorEq, false_iff]
      rintro ⟨u, hu⟩
      exact hk ((List.cons_eq_cons.mp hu).1 ▸ u.2)

theorem Suffixes.expr_name (dot : Terminal .dot) (name : OneOf nameKinds) (rest : Suffixes)
    (target : Expr) :
    (Suffixes.name dot name rest).expr target = rest.expr (target.dot name.1.value) := by
  cases target <;> rfl

theorem atom?_eq_none {t : Token} (h : t.kind ∉ literalKinds) (hi : t.kind ≠ .ident) :
    t.atom? = none := by
  unfold Token.atom?
  generalize t.kind = k at h hi
  cases k <;> simp [literalKinds] at h hi ⊢

variable {stop : Token}

/-! ## Soundness -/

mutual

theorem readExpr_sound (ts : List Token) {r : List Token} {e : Expr} (good : Faithful ts)
    (h : readExpr stop ts = .ok (e, r)) : ∃ p : Phrase, p.expr = e ∧ ts = p.tokens ++ r := by
  rw [readExpr_eq, Level.all_eq_levels] at h
  obtain ⟨⟨test, r₁⟩, h₁, h⟩ := bind_eq_ok.mp h
  obtain ⟨o, ho, hts⟩ := readLevels_sound levels ts good h₁
  have good₁ : Faithful r₁ := (hts ▸ good).right
  cases r₁ with
  | nil =>
    cases h
    exact ⟨.plain o, ho, hts⟩
  | cons t r₁ =>
    by_cases hq : t.kind = .question
    · simp only [hq, if_true] at h
      have hlt := readLevels_shorter h₁
      rw [List.length_cons] at hlt
      obtain ⟨⟨consequent, r₂⟩, h₂, h⟩ := bind_eq_ok.mp h
      obtain ⟨c, hc, hr₁⟩ := readExpr_sound r₁ good₁.tail h₂
      have hlt₂ := readExpr_shorter h₂
      obtain ⟨r₃, h₃, h⟩ := bind_eq_ok.mp h
      obtain ⟨colon, rfl⟩ := readToken_eq_ok.mp h₃
      rw [List.length_cons] at hlt₂
      obtain ⟨⟨alternate, r₄⟩, h₄, h⟩ := bind_eq_ok.mp h
      obtain ⟨a, ha, hr₃⟩ := readExpr_sound r₃ (hr₁ ▸ good₁.tail).right.tail h₄
      cases h
      refine ⟨.conditional o ⟨t, hq⟩ c colon a, by simp only [Phrase.expr, ho, hc, ha], ?_⟩
      simp [Phrase.tokens, hts, hr₁, hr₃]
    · simp only [hq, if_false] at h
      cases h
      exact ⟨.plain o, ho, hts⟩
termination_by (ts.length, levels.length + 2)

theorem readLevels_sound (levels : List Level) (ts : List Token) {r : List Token} {e : Expr}
    (good : Faithful ts) (h : readLevels stop levels ts = .ok (e, r)) :
    ∃ o : Operand levels, o.expr = e ∧ ts = o.tokens ++ r := by
  cases levels with
  | nil =>
    rw [readLevels_nil] at h
    obtain ⟨u, hu, hts⟩ := readUnary_sound ts good h
    exact ⟨.tightest u, hu, hts⟩
  | cons level tighter =>
    rw [readLevels_cons] at h
    obtain ⟨⟨left, r₁⟩, h₁, h⟩ := bind_eq_ok.mp h
    obtain ⟨first, hf, hts⟩ := readLevels_sound tighter ts good h₁
    have hlt := readLevels_shorter h₁
    obtain ⟨links, hl, hr₁⟩ := readChain_sound level tighter left r₁ (hts ▸ good).right h
    exact ⟨.chain first links, by rw [Operand.expr, hf, hl],
      by rw [Operand.tokens, hts, hr₁, List.append_assoc]⟩
termination_by (ts.length, levels.length + 1)

theorem readChain_sound (level : Level) (tighter : List Level) (left : Expr) (ts : List Token)
    {r : List Token} {e : Expr} (good : Faithful ts)
    (h : readChain stop level tighter left ts = .ok (e, r)) :
    ∃ links : Links level tighter, links.expr left = e ∧ ts = links.tokens ++ r := by
  match ts with
  | [] =>
    rw [readChain_nil] at h
    cases h
    exact ⟨.nil, rfl, rfl⟩
  | t :: ts =>
    rw [readChain_cons] at h
    cases hop : level.operator? t.kind with
    | none =>
      simp only [hop] at h
      cases h
      exact ⟨.nil, rfl, rfl⟩
    | some op =>
      simp only [hop] at h
      obtain ⟨mem, hk⟩ := Level.operator?_eq_some_iff.mp hop
      obtain ⟨⟨right, r₁⟩, h₁, h⟩ := bind_eq_ok.mp h
      obtain ⟨o, ho, hts⟩ := readLevels_sound tighter ts good.tail h₁
      have hlt := readLevels_shorter h₁
      obtain ⟨rest, hr, hr₁⟩ :=
        readChain_sound level tighter (.binary op left right) r₁ (hts ▸ good.tail).right h
      exact ⟨.cons op mem ⟨t, hk.symm⟩ o rest, by rw [Links.expr, ho, hr],
        by rw [Links.tokens, hts, hr₁, List.cons_append, List.append_assoc]⟩
termination_by (ts.length, 0)

theorem readUnary_sound (ts : List Token) {r : List Token} {e : Expr} (good : Faithful ts)
    (h : readUnary stop ts = .ok (e, r)) : ∃ u : Prefixed, u.expr = e ∧ ts = u.tokens ++ r := by
  match ts with
  | [] =>
    rw [readUnary_nil] at h
    cases h
  | t :: ts =>
    rw [readUnary_cons] at h
    cases hop : t.kind.unaryOp? with
    | some op =>
      simp only [hop] at h
      obtain ⟨⟨operand, r₁⟩, h₁, h⟩ := bind_eq_ok.mp h
      obtain ⟨u, hu, hts⟩ := readUnary_sound ts good.tail h₁
      cases h
      exact ⟨.sign op ⟨t, (TokenKind.unaryOp?_eq_some_iff.mp hop).symm⟩ u,
        by rw [Prefixed.expr, hu],
        by rw [Prefixed.tokens, hts, List.cons_append]⟩
    | none =>
      simp only [hop] at h
      obtain ⟨⟨target, r₁⟩, h₁, h⟩ := bind_eq_ok.mp h
      obtain ⟨p, hp, hts⟩ := readPrimary_sound t ts good h₁
      have hle := readPrimary_notLonger h₁
      obtain ⟨suffixes, hs, hr₁⟩ := readPostfix_sound target r₁ (hts ▸ good).right h
      exact ⟨.bare p suffixes, by rw [Prefixed.expr, hp, hs],
        by rw [Prefixed.tokens, hts, hr₁, List.append_assoc]⟩
termination_by (ts.length, 0)

theorem readPostfix_sound (target : Expr) (ts : List Token) {r : List Token} {e : Expr}
    (good : Faithful ts) (h : readPostfix stop target ts = .ok (e, r)) :
    ∃ suffixes : Suffixes, suffixes.expr target = e ∧ ts = suffixes.tokens ++ r := by
  match ts with
  | [] =>
    rw [readPostfix_nil] at h
    cases h
    exact ⟨.nil, rfl, rfl⟩
  | t :: ts =>
    rw [readPostfix_cons] at h
    by_cases hd : t.kind = .dot
    · simp only [hd, if_true] at h
      cases htail : ts with
      | nil =>
        rw [htail] at h
        cases h
      | cons name ts' =>
        rw [htail] at h good
        have hlt : ts'.length < ts.length := by rw [htail, List.length_cons]; omega
        by_cases hn : name.kind.isName
        · simp only [hn, if_true] at h
          obtain ⟨rest, hr, hts⟩ := readPostfix_sound (target.dot name.value) ts' good.tail.tail h
          exact ⟨.name ⟨t, hd⟩ ⟨name, TokenKind.isName_iff.mp hn⟩ rest,
            by rw [Suffixes.expr_name, hr], by rw [Suffixes.tokens, hts]; rfl⟩
        · simp only [hn] at h
          cases h
    · by_cases hb : t.kind = .lbracket
      · simp only [hb, reduceCtorEq, if_false, if_true] at h
        obtain ⟨⟨key, r₁⟩, h₁, h⟩ := bind_eq_ok.mp h
        obtain ⟨p, hp, hts⟩ := readExpr_sound ts good.tail h₁
        have hlt := readExpr_shorter h₁
        obtain ⟨r₂, h₂, h⟩ := bind_eq_ok.mp h
        obtain ⟨closing, rfl⟩ := readToken_eq_ok.mp h₂
        rw [List.length_cons] at hlt
        obtain ⟨rest, hr, hr₂⟩ :=
          readPostfix_sound (.member target key) r₂ (hts ▸ good.tail).right.tail h
        refine ⟨.index ⟨t, hb⟩ p closing rest, by rw [Suffixes.expr, hp, hr], ?_⟩
        simp [Suffixes.tokens, hts, hr₂]
      · simp only [hd, hb, if_false] at h
        cases h
        exact ⟨.nil, rfl, rfl⟩
termination_by (ts.length, 0)

theorem readPrimary_sound (t : Token) (ts : List Token) {r : List Token} {e : Expr}
    (good : Faithful (t :: ts)) (h : readPrimary stop t ts = .ok (e, r)) :
    ∃ p : Primary, p.expr = e ∧ t :: ts = p.tokens ++ r := by
  rw [readPrimary_eq] at h
  by_cases hp : t.kind = .lparen
  · simp only [hp, if_true] at h
    obtain ⟨⟨inner, r₁⟩, h₁, h⟩ := bind_eq_ok.mp h
    obtain ⟨p, hp', hts⟩ := readExpr_sound ts good.tail h₁
    obtain ⟨r₂, h₂, h⟩ := bind_eq_ok.mp h
    obtain ⟨closing, rfl⟩ := readToken_eq_ok.mp h₂
    cases h
    refine ⟨.group ⟨t, hp⟩ p closing, hp', ?_⟩
    simp [Primary.tokens, hts]
  · by_cases hi : t.kind = .ident
    · simp only [hi, reduceCtorEq, if_false, if_true] at h
      cases htail : ts with
      | nil =>
        rw [htail] at h
        cases h
        exact ⟨.ident ⟨t, hi⟩, rfl, rfl⟩
      | cons u ts' =>
        rw [htail] at h good
        have hlt : ts'.length < ts.length := by rw [htail, List.length_cons]; omega
        by_cases hu : u.kind = .lparen
        · simp only [hu, if_true] at h
          obtain ⟨⟨arguments, r₁⟩, h₁, h⟩ := bind_eq_ok.mp h
          obtain ⟨x, closing, hx, hts⟩ := readArguments_sound ts' good.tail.tail h₁
          cases h
          refine ⟨.call ⟨t, hi⟩ ⟨u, hu⟩ x closing, by rw [Primary.expr, hx], ?_⟩
          simp [Primary.tokens, hts]
        · simp only [hu, if_false] at h
          cases h
          exact ⟨.ident ⟨t, hi⟩, rfl, rfl⟩
    · simp only [hp, hi, if_false] at h
      by_cases hl : t.kind ∈ literalKinds
      · rw [good t List.mem_cons_self hl] at h
        cases h
        exact ⟨.literal ⟨t, hl⟩, rfl, rfl⟩
      · rw [atom?_eq_none hl hi] at h
        cases h
termination_by (ts.length, levels.length + 3)

theorem readArguments_sound (ts : List Token) {r : List Token} {es : List Expr}
    (good : Faithful ts) (h : readArguments stop ts = .ok (es, r)) :
    ∃ (x : Arguments) (closing : Terminal .rparen), x.exprs = es ∧
      ts = x.tokens ++ closing.1 :: r := by
  rw [readArguments_eq] at h
  by_cases hp : (next stop ts).kind = .rparen
  · simp only [hp, if_true] at h
    obtain ⟨r₁, h₁, h⟩ := bind_eq_ok.mp h
    obtain ⟨closing, hts⟩ := readToken_eq_ok.mp h₁
    cases h
    exact ⟨.none, closing, rfl, hts⟩
  · simp only [hp, if_false] at h
    obtain ⟨⟨e, r₁⟩, h₁, h⟩ := bind_eq_ok.mp h
    obtain ⟨p, hp', hts⟩ := readExpr_sound ts good h₁
    have hlt := readExpr_shorter h₁
    obtain ⟨⟨es, r₂⟩, h₂, h⟩ := bind_eq_ok.mp h
    obtain ⟨more, closing, hm, hr₁⟩ := readMoreArguments_sound r₁ (hts ▸ good).right h₂
    cases h
    exact ⟨.some p more, closing, by rw [Arguments.exprs, hp', hm],
      by rw [Arguments.tokens, hts, hr₁, List.append_assoc]⟩
termination_by (ts.length, levels.length + 3)

theorem readMoreArguments_sound (ts : List Token) {r : List Token} {es : List Expr}
    (good : Faithful ts) (h : readMoreArguments stop ts = .ok (es, r)) :
    ∃ (x : MoreArguments) (closing : Terminal .rparen), x.exprs = es ∧
      ts = x.tokens ++ closing.1 :: r := by
  match ts with
  | [] =>
    rw [readMoreArguments_nil] at h
    cases h
  | t :: ts =>
    rw [readMoreArguments_cons] at h
    by_cases hc : t.kind = .comma
    · simp only [hc, if_true] at h
      obtain ⟨⟨e, r₁⟩, h₁, h⟩ := bind_eq_ok.mp h
      obtain ⟨p, hp, hts⟩ := readExpr_sound ts good.tail h₁
      have hlt := readExpr_shorter h₁
      obtain ⟨⟨es, r₂⟩, h₂, h⟩ := bind_eq_ok.mp h
      obtain ⟨rest, closing, hm, hr₁⟩ := readMoreArguments_sound r₁ (hts ▸ good.tail).right h₂
      cases h
      exact ⟨.cons ⟨t, hc⟩ p rest, closing, by rw [MoreArguments.exprs, hp, hm],
        by rw [MoreArguments.tokens, hts, hr₁, List.cons_append, List.append_assoc]⟩
    · simp only [hc, if_false] at h
      obtain ⟨r₁, h₁, h⟩ := bind_eq_ok.mp h
      obtain ⟨closing, hts⟩ := readToken_eq_ok.mp h₁
      cases h
      exact ⟨.nil, closing, rfl, hts⟩
termination_by (ts.length, 0)

end

/-! ## Completeness -/

@[simp] theorem readToken_terminal {kind : TokenKind} (t : Terminal kind) (ts : List Token) :
    readToken stop kind (t.1 :: ts) = .ok ts := by
  rw [readToken_cons, if_pos t.2]

theorem Ends.operator?_eq_none {level : Level} {tighter : List Level} {t : Token} {ts : List Token}
    (h : Ends (level :: tighter) (t :: ts)) : level.operator? t.kind = none := by
  cases hop : level.operator? t.kind with
  | none => rfl
  | some op =>
    obtain ⟨mem, hk⟩ := Level.operator?_eq_some_iff.mp hop
    exact absurd (hk ▸ continues_of_mem mem) (ends_cons.mp h)

theorem unaryOp?_eq_none {kind : TokenKind} (h : ∀ op : UnaryOp, op.token ≠ kind) :
    kind.unaryOp? = none := by
  cases hop : kind.unaryOp? with
  | none => rfl
  | some op => exact absurd (TokenKind.unaryOp?_eq_some_iff.mp hop) (h op)

mutual

theorem Phrase.complete {r : List Token} (p : Phrase) (good : Faithful p.tokens) (hr : Closes r) :
    readExpr stop (p.tokens ++ r) = .ok (p.expr, r) := by
  match p with
  | .plain test =>
    rw [readExpr_eq, Level.all_eq_levels, Phrase.tokens, test.complete nodup_levels good hr.1]
    cases r with
    | nil => rfl
    | cons t r => exact if_neg (closes_cons.mp hr).2
  | .conditional test question consequent colon alternate =>
    simp only [Phrase.tokens, Faithful, List.mem_append, List.mem_cons] at good
    rw [readExpr_eq, Level.all_eq_levels]
    simp only [Phrase.tokens, List.append_assoc, List.cons_append]
    rw [test.complete nodup_levels (fun t ht => good t (.inl ht)) (ends_question question.2)]
    simp only [bind, Except.bind, question.2, if_true]
    rw [consequent.complete (fun t ht => good t (.inr (.inr (.inl ht))))
      (closes_of_kind (by simp [colon.2]))]
    simp only [readToken_terminal]
    rw [alternate.complete (fun t ht => good t (.inr (.inr (.inr (.inr ht))))) hr]
    rfl
termination_by structural p

theorem Operand.complete {r : List Token} {levels : List Level} (o : Operand levels)
    (nodup : levels.Nodup) (good : Faithful o.tokens) (hr : Ends levels r) :
    readLevels stop levels (o.tokens ++ r) = .ok (o.expr, r) := by
  match o with
  | .tightest u =>
    rw [readLevels_nil]
    exact u.complete good hr
  | .chain first links =>
    simp only [Operand.tokens, Faithful, List.mem_append] at good
    rw [readLevels_cons, Operand.tokens, List.append_assoc,
      first.complete (List.nodup_cons.mp nodup).2 (fun t ht => good t (.inl ht))
        (links.ends nodup hr)]
    exact links.complete nodup (fun t ht => good t (.inr ht)) hr first.expr
termination_by structural o

theorem Links.complete {r : List Token} {level : Level} {tighter : List Level}
    (l : Links level tighter) (nodup : (level :: tighter).Nodup) (good : Faithful l.tokens)
    (hr : Ends (level :: tighter) r) (left : Expr) :
    readChain stop level tighter left (l.tokens ++ r) = .ok (l.expr left, r) := by
  match l with
  | .nil =>
    cases r with
    | nil => exact readChain_nil stop level tighter left
    | cons t r =>
      rw [Links.tokens, List.nil_append, readChain_cons, hr.operator?_eq_none]
      rfl
  | .cons op mem sign right rest =>
    simp only [Links.tokens, Faithful, List.mem_append, List.mem_cons] at good
    simp only [Links.tokens, List.append_assoc, List.cons_append]
    rw [readChain_cons, Level.operator?_eq_some_iff.mpr ⟨mem, sign.2.symm⟩]
    simp only [bind, Except.bind]
    rw [right.complete (List.nodup_cons.mp nodup).2 (fun t ht => good t (.inr (.inl ht)))
      (rest.ends nodup hr)]
    exact rest.complete nodup (fun t ht => good t (.inr (.inr ht))) hr _
termination_by structural l

theorem Prefixed.complete {r : List Token} (u : Prefixed) (good : Faithful u.tokens)
    (hr : Ends [] r) : readUnary stop (u.tokens ++ r) = .ok (u.expr, r) := by
  match u with
  | .sign op sign operand =>
    simp only [Prefixed.tokens, Faithful, List.mem_cons] at good
    rw [Prefixed.tokens, List.cons_append, readUnary_cons,
      TokenKind.unaryOp?_eq_some_iff.mpr sign.2.symm]
    simp only [bind, Except.bind]
    rw [operand.complete (fun t ht => good t (.inr ht)) hr]
    rfl
  | .bare primary suffixes =>
    simp only [Prefixed.tokens, Faithful, List.mem_append] at good
    obtain ⟨t, ts, ht, hp, hop⟩ :=
      primary.complete (fun t ht => good t (.inl ht)) (suffixes.ends hr)
    rw [Prefixed.tokens, List.append_assoc, ht, List.cons_append, readUnary_cons,
      unaryOp?_eq_none hop]
    simp only [bind, Except.bind]
    rw [hp]
    exact suffixes.complete (fun t ht => good t (.inr ht)) hr primary.expr
termination_by structural u

theorem Suffixes.complete {r : List Token} (x : Suffixes) (good : Faithful x.tokens)
    (hr : Ends [] r) (target : Expr) :
    readPostfix stop target (x.tokens ++ r) = .ok (x.expr target, r) := by
  match x with
  | .nil =>
    cases r with
    | nil => exact readPostfix_nil stop target
    | cons t r =>
      have hd : t.kind ≠ .dot := fun h => ends_cons.mp hr (.inl (by simp [h]))
      have hb : t.kind ≠ .lbracket := fun h => ends_cons.mp hr (.inl (by simp [h]))
      rw [Suffixes.tokens, List.nil_append, readPostfix_cons, if_neg hd, if_neg hb]
      rfl
  | .name dot name rest =>
    simp only [Suffixes.tokens, Faithful, List.mem_cons] at good
    rw [Suffixes.tokens, List.cons_append, List.cons_append, readPostfix_cons, if_pos dot.2,
      Suffixes.expr_name]
    simp only [TokenKind.isName_iff.mpr name.2, if_true]
    exact rest.complete (fun t ht => good t (.inr (.inr ht))) hr _
  | .index opening key closing rest =>
    simp only [Suffixes.tokens, Faithful, List.mem_cons, List.mem_append] at good
    simp only [Suffixes.tokens, List.append_assoc, List.cons_append]
    rw [readPostfix_cons, if_neg (by simp [opening.2]), if_pos opening.2,
      key.complete (fun t ht => good t (.inr (.inl ht))) (closes_of_kind (by simp [closing.2]))]
    simp only [bind, Except.bind, readToken_terminal]
    exact rest.complete (fun t ht => good t (.inr (.inr (.inr ht)))) hr _
termination_by structural x

theorem Primary.complete {r : List Token} (p : Primary) (good : Faithful p.tokens)
    (hr : ∀ t ∈ r.head?, t.kind ≠ .lparen) :
    ∃ t ts, p.tokens = t :: ts ∧ readPrimary stop t (ts ++ r) = .ok (p.expr, r) ∧
      ∀ op : UnaryOp, op.token ≠ t.kind := by
  obtain ⟨t, ts, ht, -, hop⟩ := p.begins
  refine ⟨t, ts, ht, ?_, hop⟩
  match p with
  | .literal t' =>
    obtain ⟨rfl, rfl⟩ := List.cons_eq_cons.mp ht
    have hp : t'.1.kind ≠ .lparen := fun h => by simpa [h, literalKinds] using t'.2
    have hi : t'.1.kind ≠ .ident := fun h => by simpa [h, literalKinds] using t'.2
    rw [readPrimary_eq, if_neg hp, if_neg hi, good _ List.mem_cons_self t'.2]
    rfl
  | .ident t' =>
    obtain ⟨rfl, rfl⟩ := List.cons_eq_cons.mp ht
    rw [readPrimary_eq, if_neg (by simp [t'.2]), if_pos t'.2]
    cases r with
    | nil => rfl
    | cons u r => exact if_neg (hr u rfl)
  | .group opening inner closing =>
    simp only [Primary.tokens, Faithful, List.mem_cons, List.mem_append] at good
    obtain ⟨rfl, rfl⟩ := List.cons_eq_cons.mp ht
    rw [readPrimary_eq, if_pos opening.2, List.append_assoc, List.singleton_append,
      inner.complete (fun t ht => good t (.inr (.inl ht))) (closes_of_kind (by simp [closing.2]))]
    simp only [bind, Except.bind, readToken_terminal]
    rfl
  | .call function opening arguments closing =>
    simp only [Primary.tokens, Faithful, List.mem_cons, List.mem_append] at good
    obtain ⟨rfl, rfl⟩ := List.cons_eq_cons.mp ht
    rw [readPrimary_eq, if_neg (by simp [function.2]), if_pos function.2]
    simp only [List.cons_append, List.append_assoc, List.nil_append, opening.2, if_true, bind,
      Except.bind]
    rw [arguments.complete closing (fun t ht => good t (.inr (.inr (.inl ht))))]
    rfl
termination_by structural p

theorem Arguments.complete {r : List Token} (x : Arguments) (closing : Terminal .rparen)
    (good : Faithful x.tokens) :
    readArguments stop (x.tokens ++ closing.1 :: r) = .ok (x.exprs, r) := by
  match x with
  | .none =>
    have hp : (next stop (closing.1 :: r)).kind = .rparen := closing.2
    rw [Arguments.tokens, List.nil_append, readArguments_eq, if_pos hp, readToken_terminal]
    rfl
  | .some first more =>
    simp only [Arguments.tokens, Faithful, List.mem_append] at good
    obtain ⟨t, ts, ht, hb⟩ := first.begins
    have hp : (next stop (first.tokens ++ (more.tokens ++ closing.1 :: r))).kind ≠ .rparen := by
      rw [ht]
      exact fun h => not_begins_rparen (h ▸ hb)
    rw [readArguments_eq, Arguments.tokens, List.append_assoc, if_neg hp,
      first.complete (fun t ht => good t (.inl ht)) (more.closes closing.2)]
    simp only [bind, Except.bind]
    rw [more.complete closing (fun t ht => good t (.inr ht))]
    rfl
termination_by structural x

theorem MoreArguments.complete {r : List Token} (x : MoreArguments) (closing : Terminal .rparen)
    (good : Faithful x.tokens) :
    readMoreArguments stop (x.tokens ++ closing.1 :: r) = .ok (x.exprs, r) := by
  match x with
  | .nil =>
    rw [MoreArguments.tokens, List.nil_append, readMoreArguments_cons,
      if_neg (by simp [closing.2]), readToken_terminal]
    rfl
  | .cons comma next rest =>
    simp only [MoreArguments.tokens, Faithful, List.mem_cons, List.mem_append] at good
    simp only [MoreArguments.tokens, List.append_assoc, List.cons_append]
    rw [readMoreArguments_cons, if_pos comma.2,
      next.complete (fun t ht => good t (.inr (.inl ht))) (rest.closes closing.2)]
    simp only [bind, Except.bind]
    rw [rest.complete closing (fun t ht => good t (.inr (.inr ht)))]
    rfl
termination_by structural x

end

end Grammar

end PageComponent
