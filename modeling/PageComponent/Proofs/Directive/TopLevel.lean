import PageComponent.Directive.TopLevel
import PageComponent.Proofs.Expr.Balance
import PageComponent.Proofs.Expr.Tiling

/-!
# The top level and expressions

Quotes and brackets are seen alike by the scanner of expressions and by the reader of the top level,
if no backslash is written. So an expression ends at the nesting that it begins at, and no comma in
it is at the top level.
-/

namespace PageComponent

namespace Nesting

variable {sep c q : Char} {n n' n'' : Nesting} {cs ds : List Char}

/-- Reading a text leads from one nesting to the other and meets no separator. -/
inductive Crosses (sep : Char) : Nesting → List Char → Nesting → Prop where
  | nil {n : Nesting} : Crosses sep n [] n
  | cons {n n' : Nesting} {c : Char} {cs : List Char} (joined : n.separates sep c = false)
      (rest : Crosses sep (n.after c) cs n') : Crosses sep n (c :: cs) n'

theorem Crosses.append (h : Crosses sep n cs n') (h' : Crosses sep n' ds n'') :
    Crosses sep n (cs ++ ds) n'' := by
  induction h with
  | nil => exact h'
  | cons joined _ ih => exact .cons joined (ih h')

/-- Outside quotes, within brackets of the given depth. -/
def within (depth : Nat) : Nesting :=
  ⟨depth, none⟩

/-- The separator, the quotes and the brackets. -/
def marks (sep : Char) : List Char :=
  [sep, '"', '\'', '(', '[', '\x7b', ')', ']', '\x7d']

theorem not_mem_marks {p : Char → Bool} (unmarked : (marks sep).all (!p ·) = true)
    (h : p c = true) : c ∉ marks sep := by
  intro mem
  have other := List.all_eq_true.mp unmarked c mem
  rw [h] at other
  cases other

theorem Crosses.of_not_mem_marks {d : Nat} (h : ∀ c ∈ cs, c ∉ marks sep) :
    Crosses sep (within d) cs (within d) := by
  induction cs with
  | nil => exact .nil
  | cons c cs ih =>
    obtain ⟨head, tail⟩ := List.forall_mem_cons.mp h
    simp only [marks, List.mem_cons, List.not_mem_nil, or_false, not_or] at head
    have same : (within d).after c = within d := by
      simp [after, within, isQuote, isOpening, isClosing, head]
    apply Crosses.cons
    · simp [separates, head]
    · rw [same]
      exact ih tail

theorem Crosses.opening {d : Nat} (h : isOpening c = true) :
    Crosses sep (within d) [c] (within (d + 1)) := by
  have unquoted : isQuote c = false := by
    simp only [isOpening, Bool.or_eq_true, beq_iff_eq] at h
    rcases h with (rfl | rfl) | rfl <;> rfl
  have deeper : (within d).after c = within (d + 1) := by
    simp [after, within, unquoted, h]
  apply Crosses.cons
  · simp [separates, h]
  · rw [deeper]
    exact .nil

theorem Crosses.closing {d : Nat} (h : isClosing c = true) :
    Crosses sep (within (d + 1)) [c] (within d) := by
  have unquoted : isQuote c = false ∧ isOpening c = false := by
    simp only [isClosing, Bool.or_eq_true, beq_iff_eq] at h
    rcases h with (rfl | rfl) | rfl <;> exact ⟨rfl, rfl⟩
  have shallower : (within (d + 1)).after c = within d := by
    simp [after, within, unquoted, h]
  apply Crosses.cons
  · simp [separates, h]
  · rw [shallower]
    exact .nil

/-- Within brackets a comma separates nothing. -/
theorem Crosses.comma {d : Nat} : Crosses ',' (within (d + 1)) [','] (within (d + 1)) := by
  apply Crosses.cons
  · simp [separates, within, top]
    omega
  · exact .nil

/-- What stands in quotes is never at the top level. -/
theorem Crosses.quoted {d : Int} (quote : isQuote q = true) (closed : q ∉ cs) :
    Crosses sep ⟨d, none⟩ (q :: (cs ++ [q])) ⟨d, none⟩ := by
  have opened : (⟨d, none⟩ : Nesting).after q = ⟨d, some q⟩ := by simp [after, quote]
  apply Crosses.cons
  · simp [separates, quote]
  · rw [opened]
    clear opened
    induction cs with
    | nil =>
      apply Crosses.cons
      · simp [separates, quote]
      · rw [after]
        simp only [if_true]
        exact .nil
    | cons c cs ih =>
      have inside : (⟨d, some q⟩ : Nesting).after c = ⟨d, some q⟩ := by
        simp [after, Ne.symm (List.ne_of_not_mem_cons closed)]
      apply Crosses.cons
      · simp [separates, top]
      · rw [inside]
        exact ih (List.not_mem_of_not_mem_cons closed)

end Nesting

/-! ## Splitting -/

namespace Text

open Nesting

variable {sep : Char} {n n' : Nesting} {cs : List Char}

theorem partsFrom_append (h : Crosses sep n cs n') (rest : List Char) :
    partsFrom sep n (cs ++ rest) =
      (cs ++ (partsFrom sep n' rest).1, (partsFrom sep n' rest).2) := by
  induction h with
  | nil => rfl
  | cons joined _ ih => simp [partsFrom, joined, ih]

theorem findFrom?_append (h : Crosses sep n cs n') (rest : List Char) :
    findFrom? sep n (cs ++ rest) = (findFrom? sep n' rest).map (· + cs.length) := by
  induction h with
  | nil => simp
  | cons joined _ ih =>
    simp [findFrom?, joined, ih, Function.comp_def, Nat.add_assoc]

end Text

/-! ## Expressions -/

namespace Lexeme

open Nesting PageComponent.Grammar

theorem Decodes.not_mem {quote : Char} {body content : List Char}
    (h : Decodes quote body content) (plain : '\\' ∉ body) : quote ∉ body := by
  induction h with
  | nil => exact List.not_mem_nil
  | plain inner _ _ ih =>
    have others := ih (List.not_mem_of_not_mem_cons plain)
    exact List.not_mem_cons_of_ne_of_not_mem (Ne.symm inner) others
  | escaped => exact absurd List.mem_cons_self plain

theorem crosses_of_operator {kind : TokenKind} {cs : List Char} {d d' : Nat}
    (mem : (cs, kind) ∈ TokenKind.operators) (depth : kind.depthAfter? d = some d') :
    Crosses ',' (within d) cs (within d') := by
  by_cases level : kind.isLevel = true
  · have unmarked : ∀ o ∈ TokenKind.operators, o.2.isLevel = true →
        o.1.all (!(marks ',').contains ·) = true := by decide
    rw [TokenKind.depthAfter?_of_isLevel level] at depth
    cases depth
    apply Crosses.of_not_mem_marks
    intro c mem_c
    have other := List.all_eq_true.mp (unmarked _ mem level) c mem_c
    simpa using other
  · have marked : ∀ o ∈ TokenKind.operators, o.2.isLevel ≠ true →
        o ∈ [(['('], .lparen), (['['], .lbracket), ([')'], .rparen), ([']'], .rbracket),
          ([','], .comma)] := by decide
    have bracket := marked _ mem level
    simp only [List.mem_cons, Prod.mk.injEq, List.not_mem_nil, or_false] at bracket
    rcases bracket with ⟨rfl, rfl⟩ | ⟨rfl, rfl⟩ | ⟨rfl, rfl⟩ | ⟨rfl, rfl⟩ | ⟨rfl, rfl⟩
    · cases depth
      exact .opening rfl
    · cases depth
      exact .opening rfl
    · cases d with
      | zero => cases depth
      | succ d =>
        cases depth
        exact .closing rfl
    · cases d with
      | zero => cases depth
      | succ d =>
        cases depth
        exact .closing rfl
    · cases d with
      | zero => cases depth
      | succ d =>
        cases depth
        exact .comma

/-- What a token takes up is crossed as the token asks, if no backslash is in it. -/
theorem Stands.crosses {kind : TokenKind} {value span rest : List Char} {d d' : Nat}
    (h : Stands kind value span rest) (plain : '\\' ∉ span)
    (depth : kind.depthAfter? d = some d') : Crosses ',' (within d) span (within d') := by
  cases h with
  | @text quote body _ _ mark decodes =>
    cases depth
    have quoted : isQuote quote = true := by rcases mark with rfl | rfl <;> rfl
    refine .quoted quoted (decodes.not_mem fun mem => plain ?_)
    exact List.mem_cons_of_mem _ (List.mem_append_left _ mem)
  | number numeral =>
    cases depth
    apply Crosses.of_not_mem_marks
    have digit {c : Char} : c.isDigit → c ∉ marks ',' := not_mem_marks (by decide)
    cases numeral with
    | whole _ digits => exact fun c mem => digit (digits c mem)
    | pointed digits _ digits' =>
      simp only [List.forall_mem_append, List.forall_mem_cons]
      exact ⟨fun c mem => digit (digits c mem), by decide, fun c mem => digit (digits' c mem)⟩
  | word start parts =>
    rw [TokenKind.depthAfter?_of_isLevel (isLevel_of_mem_nameKinds (word_kind _))] at depth
    cases depth
    apply Crosses.of_not_mem_marks
    rw [List.forall_mem_cons]
    constructor
    · exact not_mem_marks (by decide) start
    · exact fun c mem => not_mem_marks (by decide) (parts c mem)
  | operator mem => exact crosses_of_operator mem depth

end Lexeme

namespace Token

open Nesting

/-- A text without backslashes is crossed as the tokens that it is made up of. -/
theorem Tiles.crosses {rest cs : List Char} {pos d d' : Nat} {ts : List Token}
    (h : Tiles rest pos cs ts) (plain : '\\' ∉ cs) (depth : depthBehind? d ts = some d') :
    Crosses ',' (within d) cs (within d') := by
  have blanks {gap : List Char} {d : Nat} (blank : ∀ c ∈ gap, Text.isBlank c = true) :
      Crosses ',' (within d) gap (within d) :=
    .of_not_mem_marks fun c mem => not_mem_marks (by decide) (blank c mem)
  induction h generalizing d with
  | blanks blank =>
    cases depth
    exact blanks blank
  | token blank stands _ ih =>
    simp only [List.mem_append, not_or] at plain
    rw [depthBehind?_cons] at depth
    obtain ⟨middle, first, depth⟩ := Option.bind_eq_some_iff.mp depth
    exact (blanks blank).append ((stands.crosses plain.2.1 first).append (ih plain.2.2 depth))

end Token

/-- An expression that is written without backslashes is crossed at every depth. -/
theorem Expr.crosses_of_parse {source : String} {e : Expr} (h : parse source = .ok e)
    (plain : '\\' ∉ source.toList) (d : Nat) :
    Nesting.Crosses ',' (.within d) source.toList (.within d) := by
  obtain ⟨p, scanned, _⟩ := tokens_of_parse h
  exact (Token.scan_eq_ok_iff.mp scanned).crosses plain (p.depthBehind?_tokens d)

end PageComponent
