import PageComponent.Proofs.Expr.Parsing

/-!
# How far the parser looks

What a reader makes of a list of tokens depends on the tokens that it takes and on the first one
that it leaves. When it fails, that one is at fault, and those taken are the beginning of something
that the reader would have read.
-/

namespace PageComponent

namespace Grammar

/-! ## Beginnings -/

/-- The tokens begin those of a derivation. -/
def Opens {α : Type} (tokens : α → List Token) (ts : List Token) : Prop :=
  ∃ p, ts <+: tokens p

section Opens

variable {α β : Type} {tokens : α → List Token} {tokens' : β → List Token}
  {ts : List Token}

theorem opens_nil [Inhabited α] : Opens tokens [] :=
  ⟨default, List.nil_prefix⟩

theorem Opens.behind (h : Opens tokens ts) (front : List Token) :
    Opens (fun a => front ++ tokens a) (front ++ ts) := by
  obtain ⟨a, begins⟩ := h
  exact ⟨a, (List.prefix_append_right_inj front).mpr begins⟩

/-- A derivation begins as a part at its front does. -/
theorem Opens.whole (h : Opens tokens ts) (whole : α → β)
    (front : ∀ a, tokens a <+: tokens' (whole a)) : Opens tokens' ts := by
  obtain ⟨a, begins⟩ := h
  exact ⟨whole a, begins.trans (front a)⟩

end Opens

instance {kind : TokenKind} : Inhabited (Terminal kind) :=
  ⟨⟨⟨kind, "", 0⟩, rfl⟩⟩

instance : Inhabited Primary :=
  ⟨.ident default⟩

instance : Inhabited Suffixes :=
  ⟨.nil⟩

instance : Inhabited Prefixed :=
  ⟨.bare default default⟩

instance {level : Level} {tighter : List Level} : Inhabited (Links level tighter) :=
  ⟨.nil⟩

/-- A single identifier, as an operand of the given levels. -/
def Operand.sample : (levels : List Level) → Operand levels
  | [] => .tightest default
  | _ :: tighter => .chain (sample tighter) default

instance {levels : List Level} : Inhabited (Operand levels) :=
  ⟨.sample levels⟩

instance : Inhabited Phrase :=
  ⟨.plain default⟩

instance : Inhabited Arguments :=
  ⟨.none⟩

instance : Inhabited MoreArguments :=
  ⟨.nil⟩

/-- The tokens of arguments and of the parenthesis that closes them. -/
def Arguments.closed (x : Arguments × Terminal .rparen) : List Token :=
  x.1.tokens ++ [x.2.1]

def MoreArguments.closed (x : MoreArguments × Terminal .rparen) : List Token :=
  x.1.tokens ++ [x.2.1]

end Grammar

namespace Expr

open PageComponent.Grammar

variable {α β γ : Type} {stop t : Token} {begun begun' : List Token → Prop} {ts : List Token}
  {f g : List Token → Except ParseError (α × List Token)} {a : α} {e : ParseError}

/-! ## Looking one token ahead -/

/-- The outcome of a reader is the same for all lists that begin with the tokens it takes and with
the one behind them. That one is the place of a failure, and the tokens taken are then as `begun`
asks. -/
inductive Looks (stop : Token) (begun : List Token → Prop)
    (f : List Token → Except ParseError (α × List Token)) (ts : List Token) : Prop where
  | ok (a : α) (used rest : List Token) (eq : ts = used ++ rest)
      (read : ∀ rest', rest'.head? = rest.head? → f (used ++ rest') = .ok (a, rest'))
  | error (e : ParseError) (used rest : List Token) (eq : ts = used ++ rest) (opened : begun used)
      (place : e.pos = (next stop rest).pos)
      (fails : ∀ rest', rest'.head? = rest.head? → f (used ++ rest') = .error e)

theorem head?_append_congr {used rest rest' : List Token} (same : rest'.head? = rest.head?) :
    (used ++ rest').head? = (used ++ rest).head? := by
  rw [List.head?_append, List.head?_append, same]

theorem next_congr {us : List Token} (same : us.head? = ts.head?) :
    next stop us = next stop ts := by
  rw [next, next, List.headD_eq_head?_getD, List.headD_eq_head?_getD, same]

namespace Looks

theorem mono (h : Looks stop begun f ts) (weaker : ∀ us, begun us → begun' us) :
    Looks stop begun' f ts := by
  cases h with
  | ok a used rest eq read => exact .ok a used rest eq read
  | error e used rest eq opened place fails =>
    exact .error e used rest eq (weaker used opened) place fails

/-- Only lists with the same first token matter. -/
theorem congr (h : Looks stop begun f ts) (same : ∀ us, us.head? = ts.head? → g us = f us) :
    Looks stop begun g ts := by
  cases h with
  | ok a used rest eq read =>
    subst eq
    refine .ok a used rest rfl fun rest' head => ?_
    rw [same _ (head?_append_congr head), read rest' head]
  | error e used rest eq opened place fails =>
    subst eq
    refine .error e used rest rfl opened place fun rest' head => ?_
    rw [same _ (head?_append_congr head), fails rest' head]

/-- A reader that takes nothing. -/
theorem leaves (a : α) (read : ∀ us, f us = .ok (a, us)) : Looks stop begun f ts :=
  .ok a [] ts rfl fun us _ => read us

theorem leaves_nil (a : α) (read : f [] = .ok (a, [])) : Looks stop begun f [] := by
  refine .ok a [] [] rfl fun rest' head => ?_
  obtain rfl := List.head?_eq_none_iff.mp head
  exact read

theorem leaves_cons (a : α) (read : ∀ r, f (t :: r) = .ok (a, t :: r)) :
    Looks stop begun f (t :: ts) := by
  refine .ok a [] (t :: ts) rfl fun rest' head => ?_
  obtain ⟨r, rfl⟩ := List.head?_eq_some_iff.mp head
  exact read r

/-- A reader that fails at once. -/
theorem fails_nil (e : ParseError) (opened : begun []) (place : e.pos = stop.pos)
    (fails : f [] = .error e) : Looks stop begun f [] := by
  refine .error e [] [] rfl opened place fun rest' head => ?_
  obtain rfl := List.head?_eq_none_iff.mp head
  exact fails

theorem fails_cons (e : ParseError) (opened : begun []) (place : e.pos = t.pos)
    (fails : ∀ r, f (t :: r) = .error e) : Looks stop begun f (t :: ts) := by
  refine .error e [] (t :: ts) rfl opened place fun rest' head => ?_
  obtain ⟨r, rfl⟩ := List.head?_eq_some_iff.mp head
  exact fails r

/-- A reader that takes the first token. -/
theorem takes (h : Looks stop (fun us => begun (t :: us)) f ts) (takes : ∀ r, g (t :: r) = f r) :
    Looks stop begun g (t :: ts) := by
  cases h with
  | ok a used rest eq read =>
    refine .ok a (t :: used) rest (congrArg (t :: ·) eq) fun rest' head => ?_
    rw [List.cons_append, takes, read rest' head]
  | error e used rest eq opened place fails =>
    refine .error e (t :: used) rest (congrArg (t :: ·) eq) opened place fun rest' head => ?_
    rw [List.cons_append, takes, fails rest' head]

/-- A reader that goes on with what another one leaves. -/
theorem bind {h : α × List Token → Except ParseError (β × List Token)} {tokens : γ → List Token}
    (first : Looks stop begun f ts)
    (sound : ∀ a rest, f ts = .ok (a, rest) → ∃ c, ts = tokens c ++ rest)
    (second : ∀ a c rest, ts = tokens c ++ rest → f ts = .ok (a, rest) →
      Looks stop (fun us => begun (tokens c ++ us)) (fun r => h (a, r)) rest) :
    Looks stop begun (fun us => f us >>= h) ts := by
  cases first with
  | error e used rest eq opened place fails =>
    refine .error e used rest eq opened place fun rest' head => ?_
    rw [fails rest' head]
    rfl
  | ok a used rest eq read =>
    have read_ts : f ts = .ok (a, rest) := eq ▸ read rest rfl
    obtain ⟨c, hc⟩ := sound a rest read_ts
    obtain rfl : used = tokens c := List.append_cancel_right (eq.symm.trans hc)
    cases second a c rest hc read_ts with
    | ok b more rest₁ eq₁ read₁ =>
      subst eq₁
      refine .ok b (tokens c ++ more) rest₁ (by rw [hc, List.append_assoc]) fun rest' head => ?_
      rw [List.append_assoc, read (more ++ rest') (head?_append_congr head)]
      exact read₁ rest' head
    | error e more rest₁ eq₁ opened place fails =>
      subst eq₁
      refine .error e (tokens c ++ more) rest₁ (by rw [hc, List.append_assoc]) opened place
        fun rest' head => ?_
      rw [List.append_assoc, read (more ++ rest') (head?_append_congr head)]
      exact fails rest' head

/-- A reader that only makes something else of what another one read. -/
theorem map {h : α × List Token → Except ParseError (β × List Token)} {k : α → β}
    (first : Looks stop begun f ts) (done : ∀ a r, h (a, r) = .ok (k a, r)) :
    Looks stop begun (fun us => f us >>= h) ts := by
  cases first with
  | ok a used rest eq read =>
    refine .ok (k a) used rest eq fun rest' head => ?_
    rw [read rest' head]
    exact done a rest'
  | error e used rest eq opened place fails =>
    refine .error e used rest eq opened place fun rest' head => ?_
    rw [fails rest' head]
    rfl

theorem expect {kind : TokenKind} {h : List Token → Except ParseError (β × List Token)}
    (opened : begun [])
    (second : ∀ (t : Terminal kind) (r : List Token), ts = t.1 :: r →
      Looks stop (fun us => begun (t.1 :: us)) h r) :
    Looks stop begun (fun us => readToken stop kind us >>= h) ts := by
  cases ts with
  | nil => exact fails_nil ⟨.expected kind stop, stop.pos⟩ opened rfl rfl
  | cons t r =>
    by_cases same : t.kind = kind
    · refine takes (second ⟨t, same⟩ r rfl) fun r => ?_
      rw [readToken_cons, if_pos same]
      rfl
    · refine fails_cons ⟨.expected kind t, t.pos⟩ opened rfl fun r => ?_
      rw [readToken_cons, if_neg same]
      rfl

end Looks

/-! ## The readers look one token ahead -/

/-- What the first of the tokens begins. -/
def readFirst (stop : Token) : List Token → Except ParseError (Expr × List Token)
  | [] => .error ⟨.unexpected stop, stop.pos⟩
  | t :: ts => readPrimary stop t ts

theorem readExpr_splits (good : Faithful ts) (e : Expr) (rest : List Token)
    (h : readExpr stop ts = .ok (e, rest)) : ∃ p : Phrase, ts = p.tokens ++ rest :=
  (readExpr_sound ts good h).imp fun _ => And.right

theorem readLevels_splits {levels : List Level} (good : Faithful ts) (e : Expr)
    (rest : List Token) (h : readLevels stop levels ts = .ok (e, rest)) :
    ∃ o : Operand levels, ts = o.tokens ++ rest :=
  (readLevels_sound levels ts good h).imp fun _ => And.right

mutual

theorem readExpr_looks (ts : List Token) (good : Faithful ts) :
    Looks stop (Opens Phrase.tokens) (readExpr stop) ts := by
  -- a part that is begun begins the whole, with the shortest parts behind it
  have first : Looks stop (Opens Phrase.tokens) (readLevels stop levels) ts :=
    (readLevels_looks levels ts good).mono fun us opened =>
      opened.whole .plain fun test => List.prefix_rfl
  refine (first.bind (readLevels_splits good) ?_).congr fun us _ => readExpr_eq stop us
  intro e test rest eq read
  have good₀ : Faithful rest := (eq ▸ good).right
  cases rest with
  | nil => exact .leaves_nil e rfl
  | cons t r =>
    by_cases hq : t.kind = .question
    · have hlt := readLevels_shorter read
      rw [List.length_cons] at hlt
      have second : Looks stop (fun us => Opens Phrase.tokens (test.tokens ++ t :: us))
          (readExpr stop) r :=
        (readExpr_looks r good₀.tail).mono fun us opened =>
          ((opened.behind [t]).behind test.tokens).whole
            (fun c => .conditional test ⟨t, hq⟩ c default default) fun c => by simp [Phrase.tokens]
      refine .takes (second.bind (readExpr_splits good₀.tail) ?_) fun r => if_pos hq
      intro e' consequent rest₁ eq₁ read₁
      have hlt₁ := readExpr_shorter read₁
      have good₁ := (eq₁ ▸ good₀.tail).right
      refine .expect ⟨.conditional test ⟨t, hq⟩ consequent default default, by simp [Phrase.tokens]⟩
        fun colon r₂ eq₂ => ?_
      rw [eq₂, List.length_cons] at hlt₁
      have third : Looks stop
          (fun us => Opens Phrase.tokens (test.tokens ++ t :: (consequent.tokens ++ colon.1 :: us)))
          (readExpr stop) r₂ :=
        (readExpr_looks r₂ (eq₂ ▸ good₁).tail).mono fun us opened =>
          ((((opened.behind [colon.1]).behind consequent.tokens).behind [t]).behind
            test.tokens).whole (.conditional test ⟨t, hq⟩ consequent colon) fun a => List.prefix_rfl
      exact third.map fun _ _ => rfl
    · exact .leaves_cons e fun r => if_neg hq
termination_by (ts.length, levels.length + 2)

theorem readLevels_looks (levels : List Level) (ts : List Token) (good : Faithful ts) :
    Looks stop (Opens (@Operand.tokens levels)) (readLevels stop levels) ts := by
  cases levels with
  | nil =>
    have only : Looks stop (Opens (@Operand.tokens [])) (readUnary stop) ts :=
      (readUnary_looks ts good).mono fun us opened =>
        opened.whole .tightest fun u => List.prefix_rfl
    exact only.congr fun us _ => readLevels_nil stop us
  | cons level tighter =>
    have first : Looks stop (Opens (@Operand.tokens (level :: tighter))) (readLevels stop tighter)
        ts :=
      (readLevels_looks tighter ts good).mono fun us opened =>
        opened.whole (fun o => .chain o default) fun o => List.prefix_append _ _
    refine (first.bind (readLevels_splits good) ?_).congr
      fun us _ => readLevels_cons stop level tighter us
    intro left o rest eq read
    have hlt := readLevels_shorter read
    exact (readChain_looks level tighter left rest (eq ▸ good).right).mono fun us opened =>
      (opened.behind o.tokens).whole (.chain o) fun links => List.prefix_rfl
termination_by (ts.length, levels.length + 1)

theorem readChain_looks (level : Level) (tighter : List Level) (left : Expr) (ts : List Token)
    (good : Faithful ts) :
    Looks stop (Opens (@Links.tokens level tighter)) (readChain stop level tighter left) ts := by
  match ts with
  | [] => exact .leaves_nil left (readChain_nil stop level tighter left)
  | t :: ts =>
    cases hop : level.operator? t.kind with
    | none =>
      refine .leaves_cons left fun r => ?_
      rw [readChain_cons, hop]
    | some op =>
      obtain ⟨mem, hk⟩ := Level.operator?_eq_some_iff.mp hop
      have right : Looks stop (fun us => Opens (@Links.tokens level tighter) (t :: us))
          (readLevels stop tighter) ts :=
        (readLevels_looks tighter ts good.tail).mono fun us opened =>
          (opened.behind [t]).whole (fun o => .cons op mem ⟨t, hk.symm⟩ o .nil)
            fun o => by simp [Links.tokens]
      refine .takes (right.bind (readLevels_splits good.tail) ?_)
        fun r => (readChain_cons stop level tighter left t r).trans (by rw [hop])
      intro right o rest eq read
      have hlt := readLevels_shorter read
      exact (readChain_looks level tighter (.binary op left right) rest
        (eq ▸ good.tail).right).mono fun us opened =>
          ((opened.behind o.tokens).behind [t]).whole (.cons op mem ⟨t, hk.symm⟩ o)
            fun l => List.prefix_rfl
termination_by (ts.length, 0)

theorem readUnary_looks (ts : List Token) (good : Faithful ts) :
    Looks stop (Opens Prefixed.tokens) (readUnary stop) ts := by
  match ts with
  | [] => exact .fails_nil ⟨.unexpected stop, stop.pos⟩ opens_nil rfl (readUnary_nil stop)
  | t :: ts =>
    cases hop : t.kind.unaryOp? with
    | some op =>
      have hk := TokenKind.unaryOp?_eq_some_iff.mp hop
      have operand : Looks stop (fun us => Opens Prefixed.tokens (t :: us)) (readUnary stop) ts :=
        (readUnary_looks ts good.tail).mono fun us opened =>
          (opened.behind [t]).whole (.sign op ⟨t, hk.symm⟩) fun u => List.prefix_rfl
      refine .takes ?_ fun r => (readUnary_cons stop t r).trans (by rw [hop])
      exact operand.map fun _ _ => rfl
    | none =>
      have first : Looks stop (Opens Prefixed.tokens) (readFirst stop) (t :: ts) :=
        (readFirst_looks t ts good).mono fun us opened =>
          opened.whole (fun p => .bare p default) fun p => List.prefix_append _ _
      -- without an operator in front, the first token belongs to the primary
      have whole : Looks stop (Opens Prefixed.tokens)
          (fun us => readFirst stop us >>= fun x => readPostfix stop x.1 x.2) (t :: ts) := by
        refine first.bind (fun _ _ h => (readPrimary_sound t ts good h).imp fun _ => And.right) ?_
        intro e p rest eq read
        have hle := readPrimary_notLonger read
        exact (readPostfix_looks e rest (eq ▸ good).right).mono fun us opened =>
          (opened.behind p.tokens).whole (.bare p) fun s => List.prefix_rfl
      refine whole.congr fun us head => ?_
      obtain ⟨r, rfl⟩ := List.head?_eq_some_iff.mp head
      rw [readUnary_cons, hop]
      rfl
termination_by (ts.length, 0)

theorem readPostfix_looks (target : Expr) (ts : List Token) (good : Faithful ts) :
    Looks stop (Opens Suffixes.tokens) (readPostfix stop target) ts := by
  match ts with
  | [] => exact .leaves_nil target (readPostfix_nil stop target)
  | t :: ts =>
    by_cases hd : t.kind = .dot
    · have dot_opens : Opens Suffixes.tokens [t] :=
        ⟨.name ⟨t, hd⟩ ⟨⟨.ident, "", 0⟩, by simp [nameKinds]⟩ .nil, by simp [Suffixes.tokens]⟩
      have step (r : List Token) := (readPostfix_cons stop target t r).trans (if_pos hd)
      match ts with
      | [] => exact .takes (.fails_nil ⟨.expectedName stop, stop.pos⟩ dot_opens rfl rfl) step
      | name :: r =>
        by_cases hn : name.kind.isName
        · have rest : Looks stop (fun us => Opens Suffixes.tokens (t :: name :: us))
              (readPostfix stop (target.dot name.value)) r :=
            (readPostfix_looks (target.dot name.value) r good.tail.tail).mono fun us opened =>
              (opened.behind [t, name]).whole (.name ⟨t, hd⟩ ⟨name, TokenKind.isName_iff.mp hn⟩)
                fun s => List.prefix_rfl
          exact .takes (.takes rest fun r => if_pos hn) step
        · exact .takes (.fails_cons ⟨.expectedName name, name.pos⟩ dot_opens rfl
            fun r => if_neg hn) step
    · by_cases hb : t.kind = .lbracket
      · have key : Looks stop (fun us => Opens Suffixes.tokens (t :: us)) (readExpr stop) ts :=
          (readExpr_looks ts good.tail).mono fun us opened =>
            (opened.behind [t]).whole (fun k => .index ⟨t, hb⟩ k default .nil)
              fun k => by simp [Suffixes.tokens]
        refine .takes (key.bind (readExpr_splits good.tail) ?_)
          fun r => (readPostfix_cons stop target t r).trans ((if_neg hd).trans (if_pos hb))
        intro e key rest eq read
        have hlt := readExpr_shorter read
        refine .expect ⟨.index ⟨t, hb⟩ key default .nil, by simp [Suffixes.tokens]⟩
          fun closing r eq₁ => ?_
        rw [eq₁, List.length_cons] at hlt
        exact (readPostfix_looks (.member target e) r (eq₁ ▸ (eq ▸ good.tail).right).tail).mono
          fun us opened =>
            (((opened.behind [closing.1]).behind key.tokens).behind [t]).whole
              (.index ⟨t, hb⟩ key closing) fun s => List.prefix_rfl
      · exact .leaves_cons target
          fun r => (readPostfix_cons stop target t r).trans ((if_neg hd).trans (if_neg hb))
termination_by (ts.length, 0)

theorem readFirst_looks (t : Token) (ts : List Token) (good : Faithful (t :: ts)) :
    Looks stop (Opens Primary.tokens) (readFirst stop) (t :: ts) := by
  by_cases hp : t.kind = .lparen
  · have inner : Looks stop (fun us => Opens Primary.tokens (t :: us)) (readExpr stop) ts :=
      (readExpr_looks ts good.tail).mono fun us opened =>
        (opened.behind [t]).whole (fun p => .group ⟨t, hp⟩ p default)
          fun p => by simp [Primary.tokens]
    refine .takes (inner.bind (readExpr_splits good.tail) ?_)
      fun r => (readPrimary_eq stop t r).trans (if_pos hp)
    intro e p rest eq read
    refine .expect ⟨.group ⟨t, hp⟩ p default, by simp [Primary.tokens]⟩ fun closing r eq₁ => ?_
    exact .leaves e fun us => rfl
  · by_cases hi : t.kind = .ident
    · have step (r : List Token) :=
        (readPrimary_eq stop t r).trans ((if_neg hp).trans (if_pos hi))
      match ts with
      | [] => exact .takes (.leaves_nil (.ref t.value []) rfl) step
      | u :: r =>
        by_cases hu : u.kind = .lparen
        · have arguments : Looks stop (fun us => Opens Primary.tokens (t :: u :: us))
              (readArguments stop) r :=
            (readArguments_looks r good.tail.tail).mono fun us opened =>
              (opened.behind [t, u]).whole (fun x => .call ⟨t, hi⟩ ⟨u, hu⟩ x.1 x.2)
                fun x => List.prefix_rfl
          refine .takes (.takes ?_ fun r => if_pos hu) step
          exact arguments.map fun _ _ => rfl
        · exact .takes (.leaves_cons (.ref t.value []) fun r => if_neg hu) step
    · have step (r : List Token) := (readPrimary_eq stop t r).trans ((if_neg hp).trans (if_neg hi))
      cases ha : t.atom? with
      | some e =>
        refine .takes (.leaves e ?_) fun r => (step r).trans (by rw [ha])
        exact fun us => rfl
      | none =>
        exact .fails_cons ⟨.unexpected t, t.pos⟩ opens_nil rfl
          fun r => (step r).trans (by rw [ha])
termination_by (ts.length, levels.length + 3)

theorem readArguments_looks (ts : List Token) (good : Faithful ts) :
    Looks stop (Opens Arguments.closed) (readArguments stop) ts := by
  by_cases hp : (next stop ts).kind = .rparen
  · -- also the end of the source, of whatever kind it is, is refused as a parenthesis
    have closing : Looks stop (Opens Arguments.closed)
        (fun us => readToken stop .rparen us >>= fun r => .ok (([] : List Expr), r)) ts :=
      .expect opens_nil fun closing r eq => .leaves [] fun us => rfl
    refine closing.congr fun us head => ?_
    rw [readArguments_eq, next_congr head, if_pos hp]
    rfl
  · have first : Looks stop (Opens Arguments.closed) (readExpr stop) ts :=
      (readExpr_looks ts good).mono fun us opened =>
        opened.whole (fun p => (.some p .nil, default)) fun p => by
          simp [Arguments.closed, Arguments.tokens]
    have whole : Looks stop (Opens Arguments.closed) (fun us => do
        let (e, r) ← readExpr stop us
        let (es, r') ← readMoreArguments stop r
        return (e :: es, r')) ts := by
      refine first.bind (readExpr_splits good) ?_
      intro e p rest eq read
      have hlt := readExpr_shorter read
      have more : Looks stop (fun us => Opens Arguments.closed (p.tokens ++ us))
          (readMoreArguments stop) rest :=
        (readMoreArguments_looks rest (eq ▸ good).right).mono fun us opened =>
          (opened.behind p.tokens).whole (fun x => (.some p x.1, x.2)) fun x => by
            simp [Arguments.closed, MoreArguments.closed, Arguments.tokens]
      exact more.map fun _ _ => rfl
    refine whole.congr fun us head => ?_
    rw [readArguments_eq, next_congr head, if_neg hp]
termination_by (ts.length, levels.length + 3)

theorem readMoreArguments_looks (ts : List Token) (good : Faithful ts) :
    Looks stop (Opens MoreArguments.closed) (readMoreArguments stop) ts := by
  match ts with
  | [] =>
    exact .fails_nil ⟨.expected .rparen stop, stop.pos⟩ opens_nil rfl (readMoreArguments_nil stop)
  | t :: ts =>
    by_cases hc : t.kind = .comma
    · have next : Looks stop (fun us => Opens MoreArguments.closed (t :: us)) (readExpr stop) ts :=
        (readExpr_looks ts good.tail).mono fun us opened =>
          (opened.behind [t]).whole (fun p => (.cons ⟨t, hc⟩ p .nil, default)) fun p => by
            simp [MoreArguments.closed, MoreArguments.tokens]
      refine .takes (next.bind
        (readExpr_splits good.tail) ?_)
        fun r => (readMoreArguments_cons stop t r).trans (if_pos hc)
      intro e p rest eq read
      have hlt := readExpr_shorter read
      have more : Looks stop (fun us => Opens MoreArguments.closed (t :: (p.tokens ++ us)))
          (readMoreArguments stop) rest :=
        (readMoreArguments_looks rest (eq ▸ good.tail).right).mono fun us opened =>
          ((opened.behind p.tokens).behind [t]).whole (fun x => (.cons ⟨t, hc⟩ p x.1, x.2))
            fun x => by simp [MoreArguments.closed, MoreArguments.tokens]
      exact more.map fun _ _ => rfl
    · have closing : Looks stop (Opens MoreArguments.closed)
          (fun us => readToken stop .rparen us >>= fun r => .ok (([] : List Expr), r)) (t :: ts) :=
        .expect opens_nil fun closing r eq => .leaves [] fun us => rfl
      refine closing.congr fun us head => ?_
      obtain ⟨r, rfl⟩ := List.head?_eq_some_iff.mp head
      exact (readMoreArguments_cons stop t r).trans (if_neg hc)
termination_by (ts.length, 0)

end

end Expr

end PageComponent
