import PageComponent.Expr.Printer
import PageComponent.Proofs.Expr.Formed
import PageComponent.Proofs.Expr.Recognition
import PageComponent.Proofs.Expr.Spelling
import Mathlib

/-!
# Printed expressions are read back

The print of an expression is scanned as the tokens of a derivation of the same expression. The
expressions excepted are those whose print hides a prefix operator behind an access, or has a number
or a character that the language cannot spell.
-/

namespace PageComponent

namespace Literal

/-- The language can spell what the literal prints. -/
def legible : Literal → Bool
  | .float x => x.isFinite && !(NumberFormat.precise.write x).toList.contains 'e'
  | .text s => s.toList.all Text.isPlain
  | _ => true

end Literal

namespace Expr

def isUnary : Expr → Bool
  | .unary .. => true
  | _ => false

mutual

/-- No access to an operation with a prefix operator, and every literal is legible. -/
def legible : Expr → Bool
  | .literal value => value.legible
  | .undefined | .ref .. => true
  | .member target key => !target.isUnary && target.legible && key.legible
  | .binary _ left right => left.legible && right.legible
  | .unary _ operand => operand.legible
  | .conditional test consequent alternate =>
    test.legible && consequent.legible && alternate.legible
  | .call _ arguments => allLegible arguments

def allLegible : List Expr → Bool
  | [] => true
  | e :: es => e.legible && allLegible es

end

end Expr

namespace BinaryOp

theorem exists_level (op : BinaryOp) : ∃ level ∈ Grammar.levels, op ∈ level.operators := by
  cases op <;> decide

theorem spelling_mem (op : BinaryOp) : (op.spelling.toList, op.token) ∈ TokenKind.operators := by
  cases op <;> decide

end BinaryOp

namespace UnaryOp

theorem spelling_mem (op : UnaryOp) : (op.spelling.toList, op.token) ∈ TokenKind.operators := by
  cases op <;> decide

end UnaryOp

namespace Grammar

open PageComponent.Token

/-! ## Larger derivations from smaller ones -/

theorem Prefixed.exists_operand (levels : List Level) (u : Prefixed) :
    ∃ o : Operand levels, o.tokens = u.tokens ∧ o.expr = u.expr := by
  induction levels with
  | nil => exact ⟨.tightest u, rfl, rfl⟩
  | cons level tighter ih =>
    obtain ⟨o, htokens, hexpr⟩ := ih
    exact ⟨.chain o .nil, by simp [Operand.tokens, Links.tokens, htokens], hexpr⟩

theorem Prefixed.exists_phrase (u : Prefixed) :
    ∃ p : Phrase, p.tokens = u.tokens ∧ p.expr = u.expr := by
  obtain ⟨o, htokens, hexpr⟩ := u.exists_operand levels
  exact ⟨.plain o, htokens, hexpr⟩

theorem exists_binary {level : Level} {op : BinaryOp} (mem : op ∈ level.operators)
    (sign : Terminal op.token) (u v : Prefixed) {levels : List Level} (hlevel : level ∈ levels) :
    ∃ o : Operand levels, o.tokens = u.tokens ++ sign.1 :: v.tokens ∧
      o.expr = .binary op u.expr v.expr := by
  induction levels with
  | nil => cases hlevel
  | cons level' tighter ih =>
    rcases List.mem_cons.mp hlevel with rfl | hlevel
    · obtain ⟨left, hleft, hleft'⟩ := u.exists_operand tighter
      obtain ⟨right, hright, hright'⟩ := v.exists_operand tighter
      refine ⟨.chain left (.cons op mem sign right .nil), ?_, ?_⟩
      · simp [Operand.tokens, Links.tokens, hleft, hright]
      · simp [Operand.expr, Links.expr, hleft', hright']
    · obtain ⟨o, htokens, hexpr⟩ := ih hlevel
      exact ⟨.chain o .nil, by simp [Operand.tokens, Links.tokens, htokens], hexpr⟩

theorem Suffixes.exists_index (x : Suffixes) (opening : Terminal .lbracket) (key : Phrase)
    (closing : Terminal .rbracket) :
    ∃ y : Suffixes, y.tokens = x.tokens ++ opening.1 :: (key.tokens ++ [closing.1]) ∧
      ∀ target, y.expr target = .member (x.expr target) key.expr := by
  cases x with
  | nil => exact ⟨.index opening key closing .nil, by simp [Suffixes.tokens], fun _ => rfl⟩
  | name dot segment rest =>
    obtain ⟨y, htokens, hexpr⟩ := Suffixes.exists_index rest opening key closing
    refine ⟨.name dot segment y, by simp [Suffixes.tokens, htokens], fun target => ?_⟩
    rw [Suffixes.expr_name, Suffixes.expr_name, hexpr]
  | index opening' key' closing' rest =>
    obtain ⟨y, htokens, hexpr⟩ := Suffixes.exists_index rest opening key closing
    exact ⟨.index opening' key' closing' y, by simp [Suffixes.tokens, htokens],
      fun target => by rw [Suffixes.expr, hexpr, Suffixes.expr]⟩
termination_by structural x

theorem Suffixes.exists_name (x : Suffixes) (dot : Terminal .dot) (name : OneOf nameKinds) :
    ∃ y : Suffixes, y.tokens = x.tokens ++ [dot.1, name.1] ∧
      ∀ target, y.expr target = (x.expr target).dot name.1.value := by
  cases x with
  | nil =>
    exact ⟨.name dot name .nil, rfl, fun target => by rw [Suffixes.expr_name]; rfl⟩
  | name dot' segment rest =>
    obtain ⟨y, htokens, hexpr⟩ := Suffixes.exists_name rest dot name
    refine ⟨.name dot' segment y, by simp [Suffixes.tokens, htokens], fun target => ?_⟩
    rw [Suffixes.expr_name, Suffixes.expr_name, hexpr]
  | index opening key closing rest =>
    obtain ⟨y, htokens, hexpr⟩ := Suffixes.exists_name rest dot name
    exact ⟨.index opening key closing y, by simp [Suffixes.tokens, htokens],
      fun target => by rw [Suffixes.expr, hexpr, Suffixes.expr]⟩
termination_by structural x

/-! ## What stands around a print -/

/-- Nothing that lengthens the print of an expression. -/
def Apart (rest : List Char) : Prop :=
  ∀ c ∈ rest.head?, c ∈ [' ', ')', ']', '[', ',']

/-- The text begins, and with nothing that lengthens an operator other than a point. -/
def Starts (cs : List Char) : Prop :=
  ∃ c cs', cs = c :: cs' ∧ c ≠ '='

variable {rest : List Char}

theorem apart_cons {c : Char} (h : c ∈ [' ', ')', ']', '[', ',']) : Apart (c :: rest) := by
  rintro d ⟨⟩
  exact h

theorem Apart.endsWord (h : Apart rest) : EndsWord rest := by
  have hall : ∀ c ∈ [' ', ')', ']', '[', ','], Lexeme.isIdentPart c = false := by
    simp [Lexeme.isIdentPart]
  exact fun c hc => hall c (h c hc)

theorem Apart.endsNumber (h : Apart rest) : EndsNumber rest := by
  have hall : ∀ c ∈ [' ', ')', ']', '[', ','], c.isDigit = false ∧ c ≠ '.' := by simp
  exact fun c hc => hall c (h c hc)

theorem Apart.endsOperator (h : Apart rest) (cs : List Char) : EndsOperator cs rest := by
  have hall : ∀ c ∈ [' ', ')', ']', '[', ','], c ≠ '=' ∧ c.isDigit = false := by simp
  exact fun c hc => ⟨(hall c (h c hc)).1, fun _ => (hall c (h c hc)).2⟩

theorem Starts.endsOperator {cs ds : List Char} (h : Starts cs) (hne : ds ≠ ['.']) :
    EndsOperator ds (cs ++ rest) := by
  obtain ⟨c, cs, rfl, hc⟩ := h
  rintro d ⟨⟩
  exact ⟨hc, fun hd => absurd hd hne⟩

theorem Starts.append {cs : List Char} (h : Starts cs) (ds : List Char) : Starts (cs ++ ds) := by
  obtain ⟨c, cs, rfl, hc⟩ := h
  exact ⟨c, cs ++ ds, rfl, hc⟩

/-- At `pos`, the text is scanned as the tokens of `u`, a derivation of `e`. -/
structure Reads (e : Expr) (pos : Nat) (cs : List Char) (u : Prefixed) : Prop where
  expr : u.expr = e
  bare : e.isUnary = false → ∃ p s, u = .bare p s
  starts : Starts cs
  yields : Yields Apart pos cs u.tokens

theorem reads_of_primary {e : Expr} {pos : Nat} {cs : List Char} {p : Primary} (expr : p.expr = e)
    (starts : Starts cs) (yields : Yields Apart pos cs p.tokens) :
    Reads e pos cs (.bare p .nil) where
  expr := expr
  bare _ := ⟨p, .nil, rfl⟩
  starts := starts
  yields := by simpa [Prefixed.tokens, Suffixes.tokens] using yields

/-! ## Names -/

section Name

variable {pos : Nat} {name : String}

theorem starts_of_isWord (word : IsWord name) : Starts name.toList := by
  obtain ⟨c, cs, hname, start, -⟩ := word
  exact ⟨c, cs, hname, ne_of_isIdentStart start rfl⟩

theorem exists_ident (ident : IsIdent name) :
    ∃ t : Terminal .ident, t.1.value = name ∧ Yields EndsWord pos name.toList [t.1] := by
  obtain ⟨⟨c, cs, hname, start, parts⟩, hlookup⟩ := ident
  have hword := @yields_word pos cs c start parts
  rw [← hname, hlookup, String.ofList_toList] at hword
  exact ⟨⟨_, rfl⟩, rfl, hword⟩

/-- Behind a point a keyword is a name as well. -/
theorem exists_segment (word : IsWord name) :
    ∃ (dot : Terminal .dot) (t : OneOf nameKinds), t.1.value = name ∧
      Yields EndsWord pos ('.' :: name.toList) [dot.1, t.1] := by
  obtain ⟨c, cs, hname, start, parts⟩ := word
  have hdot := @yields_operator pos ['.'] .dot (by decide)
  have hword := @yields_word (pos + 1) cs c start parts
  have h := hdot.append hword fun rest _ => by
    rintro d ⟨⟩
    exact ⟨ne_of_isIdentStart start rfl, fun _ => not_isDigit_of_isIdentStart start⟩
  rw [← hname, String.ofList_toList] at h
  exact ⟨⟨_, rfl⟩, ⟨_, word_kind name.toList⟩, rfl, h⟩

end Name

/-! ## Literals -/

section Literal

variable {pos : Nat}

theorem keyword_word {word : List Char} {kind : TokenKind}
    (mem : (word, kind) ∈ TokenKind.keywords) :
    kind ∈ literalKinds ∧ TokenKind.keywords.lookup word = some kind ∧
      ∃ c cs, word = c :: cs ∧ Lexeme.isIdentStart c ∧ ∀ d ∈ cs, Lexeme.isIdentPart d := by
  simp only [TokenKind.keywords, List.mem_cons, Prod.mk.injEq, List.not_mem_nil, or_false] at mem
  rcases mem with ⟨rfl, rfl⟩ | ⟨rfl, rfl⟩ | ⟨rfl, rfl⟩ | ⟨rfl, rfl⟩ <;>
    exact ⟨by decide, rfl, _, _, rfl, rfl, List.all_eq_true.mp rfl⟩

theorem exists_reads_keyword {word : List Char} {kind : TokenKind}
    (mem : (word, kind) ∈ TokenKind.keywords) :
    ∃ u, Reads (denotes ⟨kind, .ofList word, pos⟩) pos word u := by
  obtain ⟨hkind, hlookup, c, cs, rfl, start, parts⟩ := keyword_word mem
  have hyields := (@yields_word pos cs c start parts).mono fun _ => Apart.endsWord
  rw [hlookup] at hyields
  exact ⟨_, @reads_of_primary _ _ _ (.literal ⟨⟨kind, .ofList (c :: cs), pos⟩, hkind⟩) rfl
    ⟨c, cs, rfl, ne_of_isIdentStart start rfl⟩ hyields⟩

theorem exists_reads_number {value : Literal} {cs : List Char} (h : Denotes cs value) :
    ∃ u, Reads (.literal value) pos cs u := by
  have hexpr : (Primary.literal ⟨⟨.number, .ofList cs, pos⟩, by simp [literalKinds]⟩).expr
      = .literal value := by
    simp [Primary.expr, denotes, h.2]
  refine ⟨_, reads_of_primary hexpr ?_ ((yields_number h.1).mono fun _ => Apart.endsNumber)⟩
  obtain ⟨c, cs, rfl, hc⟩ := numeral_head h.1
  refine ⟨c, cs, rfl, ?_⟩
  rintro rfl
  simp at hc

theorem exists_reads_text {s : String} (plain : ∀ c ∈ s.toList, Text.isPlain c) :
    ∃ u, Reads (.literal (.text s)) pos (quoted s).toList u := by
  have hexpr : (Primary.literal ⟨⟨.string, .ofList s.toList, pos⟩, by simp [literalKinds]⟩).expr
      = .literal (.text s) := by
    simp [Primary.expr, denotes]
  rw [quoted, String.toList_ofList]
  refine ⟨_, reads_of_primary hexpr ?_ (yields_text plain)⟩
  refine ⟨Text.quoteFor s.toList, _, rfl, ?_⟩
  rcases quoteFor_eq s.toList with h | h <;> rw [h] <;> decide

theorem exists_reads_literal {value : Literal} (formed : value.Formed) (legible : value.legible) :
    ∃ u, Reads (.literal value) pos value.print.toList u := by
  cases value with
  | null => exact exists_reads_keyword (by decide : ("null".toList, .nullWord) ∈ TokenKind.keywords)
  | bool b =>
    cases b with
    | false =>
      exact exists_reads_keyword (by decide : ("false".toList, .falseWord) ∈ TokenKind.keywords)
    | true =>
      exact exists_reads_keyword (by decide : ("true".toList, .trueWord) ∈ TokenKind.keywords)
  | int n =>
    have hprint : (Literal.int n).print.toList = Nat.toDigits 10 n := Nat.toList_repr
    rw [hprint]
    exact exists_reads_number (denotes_natural n)
  | float x =>
    simp only [Literal.legible, Bool.and_eq_true, Bool.not_eq_true', List.contains_eq_mem,
      decide_eq_false_iff_not] at legible
    exact exists_reads_number (denotes_write legible.1 formed legible.2)
  | text s => exact exists_reads_text (List.all_eq_true.mp legible)

end Literal

/-! ## Composed expressions -/

theorem toList_intercalate_cons (separator x : String) (xs : List String) :
    (separator.intercalate (x :: xs)).toList =
      x.toList ++ xs.flatMap fun y => separator.toList ++ y.toList := by
  induction xs generalizing x with
  | nil => simp
  | cons y xs ih => rw [String.intercalate_cons_cons, String.toList_append, ih]; simp

section Composed

variable {pos : Nat}

theorem yields_nil {P : List Char → Prop} : Yields P pos [] [] := by
  intro rest _
  rw [List.nil_append, List.length_nil, Nat.add_zero]
  cases scan pos rest <;> rfl

theorem yields_spaced {P : List Char → Prop} {cs : List Char} {kind : TokenKind}
    (mem : (cs, kind) ∈ TokenKind.operators) :
    Yields P pos (' ' :: (cs ++ [' '])) [⟨kind, .ofList cs, pos + 1⟩] := by
  have hop := @yields_operator (pos + 1) cs kind mem
  have h := hop.append (@yields_blank P _) fun rest _ =>
    (apart_cons (by decide) : Apart (' ' :: rest)).endsOperator cs
  exact (@yields_blank (fun _ => True) pos).append h fun _ _ => trivial

/-- What stands between parentheses or brackets. -/
theorem exists_enclosed {P Q : List Char → Prop} (o c : Char) {opening closing : TokenKind}
    (marks : ([o], opening) ∈ TokenKind.operators ∧ ([c], closing) ∈ TokenKind.operators ∧
      [o] ≠ ['.']) {cs : List Char} {ts : List Token} (starts : Starts (cs ++ [c]))
    (yields : Yields P (pos + 1) cs ts) (inner : ∀ rest, P (c :: rest))
    (outer : ∀ rest, Q rest → EndsOperator [c] rest) :
    ∃ (first : Terminal opening) (last : Terminal closing),
      Yields Q pos (o :: (cs ++ [c])) (first.1 :: (ts ++ [last.1])) := by
  obtain ⟨hopen, hclose, ne⟩ := marks
  have h := yields.append ((yields_operator hclose).mono outer) fun rest _ => inner rest
  exact ⟨⟨_, rfl⟩, ⟨_, rfl⟩,
    (yields_operator hopen).append h fun _ _ => starts.endsOperator ne⟩

theorem exists_parenthesized {cs : List Char} {ts : List Token} (starts : Starts (cs ++ [')']))
    (yields : Yields Apart (pos + 1) cs ts) :
    ∃ (first : Terminal .lparen) (last : Terminal .rparen),
      Yields Apart pos ('(' :: (cs ++ [')'])) (first.1 :: (ts ++ [last.1])) :=
  exists_enclosed '(' ')' (by decide) starts yields (fun _ => apart_cons (by decide))
    fun _ hrest => hrest.endsOperator [')']

theorem exists_reads_group {p : Phrase} {cs : List Char} (starts : Starts cs)
    (yields : Yields Apart (pos + 1) cs p.tokens) :
    ∃ u, Reads p.expr pos ('(' :: (cs ++ [')'])) u := by
  obtain ⟨first, last, h⟩ := exists_parenthesized (starts.append [')']) yields
  exact ⟨_, @reads_of_primary _ _ _ (.group first p last) rfl ⟨'(', _, rfl, by decide⟩ h⟩

theorem exists_path {names : List String} (words : ∀ name ∈ names, IsWord name) :
    ∃ x : Suffixes, (∀ parameter path,
        x.expr (.ref parameter path) = .ref parameter (path ++ names)) ∧
      Yields Apart pos (names.flatMap fun name => ".".toList ++ name.toList) x.tokens := by
  induction names generalizing pos with
  | nil => exact ⟨.nil, fun _ _ => by rw [List.append_nil]; rfl, yields_nil⟩
  | cons name names ih =>
    obtain ⟨word, others⟩ := List.forall_mem_cons.mp words
    obtain ⟨dot, segment, rfl, hsegment⟩ := @exists_segment pos name word
    obtain ⟨x, hexpr, hyields⟩ := @ih (pos + ('.' :: segment.1.value.toList).length) others
    refine ⟨.name dot segment x, fun parameter path => ?_, ?_⟩
    · rw [Suffixes.expr, hexpr, List.append_assoc, List.singleton_append]
    · refine hsegment.append hyields fun rest hrest => ?_
      cases names with
      | nil => exact hrest.endsWord
      | cons next names => exact fun d hd => by cases hd; rfl

theorem exists_reads_ref {parameter : String} {names : List String} (ident : IsIdent parameter)
    (words : ∀ name ∈ names, IsWord name) :
    ∃ u, Reads (.ref parameter names) pos (Expr.ref parameter names).print.toList u := by
  have starts := starts_of_isWord ident.1
  obtain ⟨t, rfl, ht⟩ := @exists_ident pos parameter ident
  obtain ⟨x, hexpr, hx⟩ := @exists_path (pos + t.1.value.toList.length) names words
  have h := ht.append hx fun rest hrest => ?_
  · rw [Expr.print, toList_intercalate_cons]
    refine ⟨.bare (.ident t) x, ?_, fun _ => ⟨_, _, rfl⟩, starts.append _, h⟩
    rw [Prefixed.expr, Primary.expr, hexpr, List.nil_append]
  · cases names with
    | nil => exact hrest.endsWord
    | cons next names => exact fun d hd => by cases hd; rfl

theorem exists_reads_member {target key : Expr} {u v : Prefixed} (bare : target.isUnary = false)
    (hu : Reads target pos target.print.toList u)
    (hv : Reads key (pos + target.print.toList.length + 1) key.print.toList v) :
    ∃ w, Reads (.member target key) pos (Expr.member target key).print.toList w := by
  obtain ⟨p, x, rfl⟩ := hu.bare bare
  obtain ⟨q, hq, hq'⟩ := v.exists_phrase
  obtain ⟨opening, closing, hkey⟩ :=
    @exists_enclosed _ _ Apart '[' ']' .lbracket .rbracket (by decide) _ _
      (hv.starts.append [']']) hv.yields (fun _ => apart_cons (by decide))
      fun _ hrest => hrest.endsOperator [']']
  obtain ⟨y, hy, hy'⟩ := x.exists_index opening q closing
  have htext : (Expr.member target key).print.toList
      = target.print.toList ++ '[' :: (key.print.toList ++ [']']) := by
    simp [Expr.print]
  rw [htext]
  refine ⟨.bare p y, ⟨?_, fun _ => ⟨p, y, rfl⟩, hu.starts.append _, ?_⟩⟩
  · rw [Prefixed.expr, hy', hq', hv.expr, ← hu.expr, Prefixed.expr]
  · have h := hu.yields.append hkey fun rest _ => apart_cons (by decide)
    have htokens : (Prefixed.bare p y).tokens
        = (Prefixed.bare p x).tokens ++ opening.1 :: (v.tokens ++ [closing.1]) := by
      simp [Prefixed.tokens, hy, hq]
    rw [htokens]
    exact h

theorem exists_reads_binary {op : BinaryOp} {left right : Expr} {u v : Prefixed}
    (hu : Reads left (pos + 1) left.print.toList u)
    (hv : Reads right (pos + 1 + left.print.toList.length
      + (' ' :: (op.spelling.toList ++ [' '])).length) right.print.toList v) :
    ∃ w, Reads (.binary op left right) pos (Expr.binary op left right).print.toList w := by
  obtain ⟨level, hlevel, mem⟩ := op.exists_level
  let sign : Terminal op.token :=
    ⟨⟨_, .ofList op.spelling.toList, pos + 1 + left.print.toList.length + 1⟩, rfl⟩
  obtain ⟨o, ho, ho'⟩ := exists_binary mem sign u v hlevel
  have h := hu.yields.append ((@yields_spaced _ (fun _ => True) _ _ op.spelling_mem).append
    hv.yields fun _ _ => trivial) fun rest _ => apart_cons (by decide)
  have htext : (Expr.binary op left right).print.toList = '(' :: ((left.print.toList
      ++ (' ' :: (op.spelling.toList ++ [' ']) ++ right.print.toList)) ++ [')']) := by
    simp [Expr.print]
  have hexpr : (Phrase.plain o).expr = .binary op left right := by
    rw [Phrase.expr, ho', hu.expr, hv.expr]
  rw [htext, ← hexpr]
  exact exists_reads_group (hu.starts.append _) (by rw [Phrase.tokens, ho]; exact h)

theorem exists_reads_conditional {test consequent alternate : Expr} {u v w : Prefixed}
    (hu : Reads test (pos + 1) test.print.toList u)
    (hv : Reads consequent (pos + 1 + test.print.toList.length + 3) consequent.print.toList v)
    (hw : Reads alternate (pos + 1 + test.print.toList.length + 3
      + consequent.print.toList.length + 3) alternate.print.toList w) :
    ∃ x, Reads (.conditional test consequent alternate) pos
      (Expr.conditional test consequent alternate).print.toList x := by
  obtain ⟨o, ho, ho'⟩ := u.exists_operand levels
  obtain ⟨p, hp, hp'⟩ := v.exists_phrase
  obtain ⟨q, hq, hq'⟩ := w.exists_phrase
  let question : Terminal .question :=
    ⟨⟨_, .ofList ['?'], pos + 1 + test.print.toList.length + 1⟩, rfl⟩
  let colon : Terminal .colon := ⟨⟨_, .ofList [':'], pos + 1 + test.print.toList.length + 3
    + consequent.print.toList.length + 1⟩, rfl⟩
  have hquestion := @yields_spaced (pos + 1 + test.print.toList.length) (fun _ => True) ['?']
    .question (by decide)
  have hcolon := @yields_spaced (pos + 1 + test.print.toList.length + 3
    + consequent.print.toList.length) (fun _ => True) [':'] .colon (by decide)
  have hrest := hv.yields.append (hcolon.append hw.yields fun _ _ => trivial)
    fun rest _ => apart_cons (by decide)
  have h := hu.yields.append (hquestion.append hrest fun _ _ => trivial)
    fun rest _ => apart_cons (by decide)
  have htext : (Expr.conditional test consequent alternate).print.toList =
      '(' :: ((test.print.toList ++ (' ' :: (['?'] ++ [' ']) ++ (consequent.print.toList
        ++ (' ' :: ([':'] ++ [' ']) ++ alternate.print.toList)))) ++ [')']) := by
    simp [Expr.print]
  have hexpr : (Phrase.conditional o question p colon q).expr
      = .conditional test consequent alternate := by
    rw [Phrase.expr, ho', hp', hq', hu.expr, hv.expr, hw.expr]
  rw [htext, ← hexpr]
  exact exists_reads_group (hu.starts.append _) (by rw [Phrase.tokens, ho, hp, hq]; exact h)

theorem reads_unary {op : UnaryOp} {operand : Expr} {u : Prefixed}
    (hu : Reads operand (pos + op.spelling.toList.length) operand.print.toList u) :
    Reads (.unary op operand) pos (Expr.unary op operand).print.toList
      (.sign op ⟨⟨op.token, .ofList op.spelling.toList, pos⟩, rfl⟩ u) := by
  have hne : op.spelling.toList ≠ ['.'] := by cases op <;> decide
  have hstarts : Starts op.spelling.toList := by
    cases op <;> exact ⟨_, _, rfl, by decide⟩
  have h := (@yields_operator pos _ _ op.spelling_mem).append hu.yields
    fun rest _ => hu.starts.endsOperator hne
  rw [Expr.print, String.toList_append]
  exact ⟨by rw [Prefixed.expr, hu.expr], nofun, hstarts.append _, h⟩

theorem exists_reads_call {function : String} {x : Arguments} (ident : IsIdent function)
    (starts : Starts ((", ".intercalate (Expr.printArguments x.exprs)).toList ++ [')']))
    (hx : Yields Apart (pos + function.toList.length + 1)
      (", ".intercalate (Expr.printArguments x.exprs)).toList x.tokens) :
    ∃ u, Reads (.call function x.exprs) pos (Expr.call function x.exprs).print.toList u := by
  have begins := starts_of_isWord ident.1
  obtain ⟨t, rfl, ht⟩ := @exists_ident pos function ident
  obtain ⟨first, last, hx⟩ := exists_parenthesized starts hx
  have h := ht.append hx fun rest _ => by
    rintro d ⟨⟩
    rfl
  have htext : (Expr.call t.1.value x.exprs).print.toList = t.1.value.toList
      ++ '(' :: ((", ".intercalate (Expr.printArguments x.exprs)).toList ++ [')']) := by
    simp [Expr.print]
  rw [htext]
  exact ⟨_, @reads_of_primary _ _ _ (.call t first x last) rfl (begins.append _) h⟩

end Composed

theorem printArguments_eq (es : List Expr) : Expr.printArguments es = es.map Expr.print := by
  induction es with
  | nil => rfl
  | cons e es ih => rw [Expr.printArguments, ih, List.map_cons]

mutual

theorem exists_reads (e : Expr) (formed : e.Formed) (legible : e.legible) (pos : Nat) :
    ∃ u, Reads e pos e.print.toList u := by
  match e with
  | .literal value => exact exists_reads_literal formed legible
  | .undefined =>
    exact exists_reads_keyword (by decide : ("undefined".toList, .undefinedWord) ∈ _)
  | .ref parameter names => exact exists_reads_ref formed.1 formed.2
  | .member target key =>
    simp only [Expr.legible, Bool.and_eq_true, Bool.not_eq_true'] at legible
    obtain ⟨u, hu⟩ := exists_reads target formed.1 legible.1.2 pos
    obtain ⟨v, hv⟩ := exists_reads key formed.2 legible.2 (pos + target.print.toList.length + 1)
    exact exists_reads_member legible.1.1 hu hv
  | .binary op left right =>
    simp only [Expr.legible, Bool.and_eq_true] at legible
    obtain ⟨u, hu⟩ := exists_reads left formed.1 legible.1 (pos + 1)
    obtain ⟨v, hv⟩ := exists_reads right formed.2 legible.2
      (pos + 1 + left.print.toList.length + (' ' :: (op.spelling.toList ++ [' '])).length)
    exact exists_reads_binary hu hv
  | .unary op operand =>
    obtain ⟨u, hu⟩ := exists_reads operand formed legible (pos + op.spelling.toList.length)
    exact ⟨_, reads_unary hu⟩
  | .conditional test consequent alternate =>
    simp only [Expr.legible, Bool.and_eq_true] at legible
    obtain ⟨u, hu⟩ := exists_reads test formed.1 legible.1.1 (pos + 1)
    obtain ⟨v, hv⟩ := exists_reads consequent formed.2.1 legible.1.2
      (pos + 1 + test.print.toList.length + 3)
    obtain ⟨w, hw⟩ := exists_reads alternate formed.2.2 legible.2
      (pos + 1 + test.print.toList.length + 3 + consequent.print.toList.length + 3)
    exact exists_reads_conditional hu hv hw
  | .call function arguments =>
    obtain ⟨x, hexprs, starts, hx⟩ := exists_arguments arguments formed.2 legible
      (pos + function.toList.length + 1)
    subst hexprs
    exact exists_reads_call formed.1 starts hx
termination_by structural e

theorem exists_arguments (es : List Expr) (formed : Expr.AllFormed es)
    (legible : Expr.allLegible es) (pos : Nat) :
    ∃ x : Arguments, x.exprs = es ∧
      Starts ((", ".intercalate (Expr.printArguments es)).toList ++ [')']) ∧
      Yields Apart pos (", ".intercalate (Expr.printArguments es)).toList x.tokens := by
  match es with
  | [] => exact ⟨.none, rfl, ⟨')', [], rfl, by decide⟩, yields_nil⟩
  | e :: es =>
    simp only [Expr.allLegible, Bool.and_eq_true] at legible
    obtain ⟨u, hu⟩ := exists_reads e formed.1 legible.1 pos
    obtain ⟨more, hexprs, hmore⟩ := exists_more es formed.2 legible.2
      (pos + e.print.toList.length)
    obtain ⟨p, hp, hp'⟩ := u.exists_phrase
    have htext : (", ".intercalate (Expr.printArguments (e :: es))).toList =
        e.print.toList ++ es.flatMap fun e => ", ".toList ++ e.print.toList := by
      rw [Expr.printArguments, toList_intercalate_cons, printArguments_eq, List.flatMap_map]
    rw [htext]
    refine ⟨.some p more, by rw [Arguments.exprs, hp', hu.expr, hexprs],
      (hu.starts.append _).append _, ?_⟩
    rw [Arguments.tokens, hp]
    refine hu.yields.append hmore fun rest hrest => ?_
    cases es with
    | nil => exact hrest
    | cons next es => exact apart_cons (by decide)
termination_by structural es

theorem exists_more (es : List Expr) (formed : Expr.AllFormed es)
    (legible : Expr.allLegible es) (pos : Nat) :
    ∃ x : MoreArguments, x.exprs = es ∧
      Yields Apart pos (es.flatMap fun e => ", ".toList ++ e.print.toList) x.tokens := by
  match es with
  | [] => exact ⟨.nil, rfl, yields_nil⟩
  | e :: es =>
    simp only [Expr.allLegible, Bool.and_eq_true] at legible
    obtain ⟨u, hu⟩ := exists_reads e formed.1 legible.1 (pos + 1 + 1)
    obtain ⟨more, hexprs, hmore⟩ := exists_more es formed.2 legible.2
      (pos + 1 + 1 + e.print.toList.length)
    obtain ⟨p, hp, hp'⟩ := u.exists_phrase
    have hcomma := @yields_operator pos [','] .comma (by decide)
    have hfirst := hu.yields.append hmore fun rest hrest => ?_
    · have hspaced := (@yields_blank (fun _ => True) (pos + 1)).append hfirst fun _ _ => trivial
      have h := hcomma.append hspaced
        fun rest _ => (apart_cons (by decide) : Apart (' ' :: _)).endsOperator [',']
      refine ⟨.cons ⟨⟨.comma, .ofList [','], pos⟩, rfl⟩ p more,
        by rw [MoreArguments.exprs, hp', hu.expr, hexprs], ?_⟩
      rw [MoreArguments.tokens, hp, List.flatMap_cons, List.append_assoc]
      exact h
    · cases es with
      | nil => exact hrest
      | cons next es => exact apart_cons (by decide)
termination_by structural es

end

end Grammar

namespace Expr

open PageComponent.Grammar

/-- Parsing the print of a parsed expression gives the expression again. -/
theorem parse_print_of_parse {source : String} {e : Expr} (h : parse source = .ok e)
    (legible : e.legible) : parse e.print = .ok e := by
  obtain ⟨p, htokens, rfl⟩ := tokens_of_parse h
  have formed := p.formed (Token.spelled_of_ofSource htokens)
  obtain ⟨u, hu⟩ := exists_reads p.expr formed legible 0
  obtain ⟨q, hq, hq'⟩ := u.exists_phrase
  have hsource : Token.ofSource p.expr.print = .ok q.tokens := by
    rw [hq]
    exact hu.yields.scan_eq nofun
  rw [parse_of_tokens hsource, hq', hu.expr]

theorem parse_print_product :
    parse (print (.binary .mul (.unary .neg (.member (.ref "a" []) (.literal (.text "x"))))
        (.call "f" [.literal (.int 2)]))) =
      .ok (.binary .mul (.unary .neg (.member (.ref "a" []) (.literal (.text "x"))))
        (.call "f" [.literal (.int 2)])) :=
  @parse_print_of_parse "-a['x'] * f(2)" _ (by cbv) (by decide +kernel)

/-- Access binds tighter than a prefix operator, so the print of this access is read otherwise. -/
example : parse (print (.member (.unary .neg (.ref "a" [])) (.literal (.int 0)))) =
    .ok (.unary .neg (.member (.ref "a" []) (.literal (.int 0)))) := by cbv

end Expr

end PageComponent
