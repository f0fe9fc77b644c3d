import PageComponent.Proofs.Expr.Scanning

/-!
# Expressions that have a source

The names in a parsed expression are words, those that stand by themselves no keywords, and its
numbers have no sign.
-/

namespace PageComponent

namespace Binary

theorem isNegative_ofParts (negative : Bool) (m : Nat) (e : Int) :
    (ofParts negative m e).isNegative = negative := by
  unfold ofParts
  split
  split <;> rfl

theorem isNegative_ofFraction (negative : Bool) (n d : Nat) :
    (ofFraction negative n d).isNegative = negative := by
  unfold ofFraction
  split
  · rfl
  · exact isNegative_ofParts negative _ _

theorem isNegative_ofDecimal (negative : Bool) (n : Nat) (e : Int) :
    (ofDecimal negative n e).isNegative = negative := by
  unfold ofDecimal
  simp only
  split
  · rfl
  split
  · rfl
  split
  · exact isNegative_ofFraction negative _ _
  · exact isNegative_ofFraction negative _ _

end Binary

namespace Literal

def Formed : Literal → Prop
  | .float x => x.isNegative = false
  | _ => True

end Literal

/-- The name is spelled as a word. -/
def IsWord (name : String) : Prop :=
  ∃ c cs, name.toList = c :: cs ∧ Lexeme.isIdentStart c ∧ ∀ d ∈ cs, Lexeme.isIdentPart d

/-- The name is a word and no keyword. -/
def IsIdent (name : String) : Prop :=
  IsWord name ∧ TokenKind.keywords.lookup name.toList = none

namespace Expr

mutual

def Formed : Expr → Prop
  | .literal value => value.Formed
  | .undefined => True
  | .ref parameter names => IsIdent parameter ∧ ∀ name ∈ names, IsWord name
  | .member target key => target.Formed ∧ key.Formed
  | .binary _ left right => left.Formed ∧ right.Formed
  | .unary _ operand => operand.Formed
  | .conditional test consequent alternate =>
    test.Formed ∧ consequent.Formed ∧ alternate.Formed
  | .call function arguments => IsIdent function ∧ AllFormed arguments

def AllFormed : List Expr → Prop
  | [] => True
  | e :: es => e.Formed ∧ AllFormed es

end

end Expr

namespace Grammar

theorem isWord_of_spelled {t : Token} (h : t.Spelled) (hk : t.kind ∈ nameKinds) :
    IsWord t.value := by
  unfold Token.Spelled at h
  unfold IsWord
  generalize t.kind = kind at h hk
  generalize t.value.toList = cs at h
  cases h with
  | number numeral => simp [nameKinds] at hk
  | text => simp [nameKinds] at hk
  | @word c cs start parts => exact ⟨c, cs, rfl, start, parts⟩
  | operator mem => exact absurd hk (operator_kind mem).2

theorem lookup_eq_none_of_ident {word : List Char}
    (h : (TokenKind.keywords.lookup word).getD .ident = .ident) :
    TokenKind.keywords.lookup word = none := by
  simp only [TokenKind.keywords, List.lookup_cons, List.lookup_nil] at h ⊢
  repeat' split at h
  all_goals simp_all

theorem isIdent_of_spelled {t : Token} (h : t.Spelled) (hk : t.kind = .ident) :
    IsIdent t.value := by
  refine ⟨isWord_of_spelled h (by simp [hk, nameKinds]), ?_⟩
  unfold Token.Spelled at h
  generalize t.kind = kind at h hk
  generalize t.value.toList = cs at h
  cases h with
  | number numeral => cases hk
  | text => cases hk
  | word start parts => exact lookup_eq_none_of_ident hk
  | operator mem => exact absurd (by simp [hk, nameKinds]) (operator_kind mem).2

theorem formed_numeral (cs : List Char) : (numeral cs).Formed := by
  unfold numeral
  split
  · trivial
  · exact Binary.isNegative_ofDecimal false _ _

theorem formed_denotes (t : Token) : (denotes t).Formed := by
  unfold denotes
  split
  · exact formed_numeral _
  all_goals trivial

mutual

theorem Phrase.formed (p : Phrase) (h : ∀ t ∈ p.tokens, t.Spelled) : p.expr.Formed := by
  match p with
  | .plain test => exact test.formed h
  | .conditional test question consequent colon alternate =>
    simp only [Phrase.tokens, List.mem_append, List.mem_cons] at h
    exact ⟨test.formed fun t ht => h t (.inl ht),
      consequent.formed fun t ht => h t (.inr (.inr (.inl ht))),
      alternate.formed fun t ht => h t (.inr (.inr (.inr (.inr ht))))⟩
termination_by structural p

theorem Operand.formed {levels : List Level} (o : Operand levels)
    (h : ∀ t ∈ o.tokens, t.Spelled) : o.expr.Formed := by
  match o with
  | .tightest u => exact u.formed h
  | .chain first links =>
    simp only [Operand.tokens, List.mem_append] at h
    exact links.formed (fun t ht => h t (.inr ht)) (first.formed fun t ht => h t (.inl ht))
termination_by structural o

theorem Links.formed {level : Level} {tighter : List Level} (l : Links level tighter)
    (h : ∀ t ∈ l.tokens, t.Spelled) {left : Expr} (hleft : left.Formed) :
    (l.expr left).Formed := by
  match l with
  | .nil => exact hleft
  | .cons op mem sign right rest =>
    simp only [Links.tokens, List.mem_append, List.mem_cons] at h
    exact rest.formed (fun t ht => h t (.inr (.inr ht)))
      ⟨hleft, right.formed fun t ht => h t (.inr (.inl ht))⟩
termination_by structural l

theorem Prefixed.formed (u : Prefixed) (h : ∀ t ∈ u.tokens, t.Spelled) : u.expr.Formed := by
  match u with
  | .sign op sign operand =>
    simp only [Prefixed.tokens, List.mem_cons] at h
    exact operand.formed fun t ht => h t (.inr ht)
  | .bare primary suffixes =>
    simp only [Prefixed.tokens, List.mem_append] at h
    exact suffixes.formed (fun t ht => h t (.inr ht)) (primary.formed fun t ht => h t (.inl ht))
termination_by structural u

theorem Suffixes.formed (x : Suffixes) (h : ∀ t ∈ x.tokens, t.Spelled) {target : Expr}
    (htarget : target.Formed) : (x.expr target).Formed := by
  match x with
  | .nil => exact htarget
  | .name dot name rest =>
    simp only [Suffixes.tokens, List.mem_cons] at h
    have hname := isWord_of_spelled (h name.1 (.inr (.inl rfl))) name.2
    rw [Suffixes.expr_name]
    refine rest.formed (fun t ht => h t (.inr (.inr ht))) ?_
    cases target with
    | ref parameter names =>
      refine ⟨htarget.1, List.forall_mem_append.mpr ⟨htarget.2, ?_⟩⟩
      exact List.forall_mem_singleton.mpr hname
    | _ => exact ⟨htarget, trivial⟩
  | .index opening key closing rest =>
    simp only [Suffixes.tokens, List.mem_append, List.mem_cons] at h
    exact rest.formed (fun t ht => h t (.inr (.inr (.inr ht))))
      ⟨htarget, key.formed fun t ht => h t (.inr (.inl ht))⟩
termination_by structural x

theorem Primary.formed (p : Primary) (h : ∀ t ∈ p.tokens, t.Spelled) : p.expr.Formed := by
  match p with
  | .literal t => exact formed_denotes t.1
  | .ident t =>
    exact ⟨isIdent_of_spelled (h t.1 List.mem_cons_self) t.2, nofun⟩
  | .group opening inner closing =>
    simp only [Primary.tokens, List.mem_append, List.mem_cons] at h
    exact inner.formed fun t ht => h t (.inr (.inl ht))
  | .call function opening arguments closing =>
    simp only [Primary.tokens, List.mem_append, List.mem_cons] at h
    exact ⟨isIdent_of_spelled (h function.1 (.inl rfl)) function.2,
      arguments.formed fun t ht => h t (.inr (.inr (.inl ht)))⟩
termination_by structural p

theorem Arguments.formed (x : Arguments) (h : ∀ t ∈ x.tokens, t.Spelled) :
    Expr.AllFormed x.exprs := by
  match x with
  | .none => trivial
  | .some first more =>
    simp only [Arguments.tokens, List.mem_append] at h
    exact ⟨first.formed fun t ht => h t (.inl ht), more.formed fun t ht => h t (.inr ht)⟩
termination_by structural x

theorem MoreArguments.formed (x : MoreArguments) (h : ∀ t ∈ x.tokens, t.Spelled) :
    Expr.AllFormed x.exprs := by
  match x with
  | .nil => trivial
  | .cons comma next rest =>
    simp only [MoreArguments.tokens, List.mem_append, List.mem_cons] at h
    exact ⟨next.formed fun t ht => h t (.inr (.inl ht)),
      rest.formed fun t ht => h t (.inr (.inr ht))⟩
termination_by structural x

end

end Grammar

end PageComponent
