import PageComponent.Expr.Evaluation
import PageComponent.Proofs.Expr.Printing
import PageComponent.Proofs.Expr.Tiling

/-!
# Spellings of a path

A path of names may be written with plain dots, with quoted names in brackets, and with parentheses
around any part from its front. All these sources have the value, or the fault, of the dotted path.
-/

namespace PageComponent

namespace Expr

open PageComponent.Grammar

theorem parse_of_yields {source : String} {P : List Char → Prop} {u : Prefixed}
    (h : Token.Yields P 0 source.toList u.tokens) (ends : P []) : parse source = .ok u.expr := by
  obtain ⟨q, htokens, hq⟩ := u.exists_phrase
  rw [← htokens] at h
  rw [parse_of_tokens (h.scan_eq ends), hq]

/-- A name goes on a reference where it is, and is a member of anything else. -/
theorem evaluate_dot (params : Params) (e : Expr) (name : String) :
    (e.dot name).evaluate params = e.evaluate params >>= fun v => v.member (.text name) := by
  cases e with
  | ref parameter names =>
    simp only [dot, evaluate, follow, List.foldlM_append, List.foldlM_cons, List.foldlM_nil,
      bind_pure]
  | _ => rfl

theorem evaluate_ref_append (params : Params) (parameter : String) (names : List String)
    (name : String) : (ref parameter (names ++ [name])).evaluate params =
      (ref parameter names).evaluate params >>= fun v => v.member (.text name) :=
  evaluate_dot params (.ref parameter names) name

end Expr

/-- A path of names as it is written: a name goes on with a point, or in quotes and brackets, and
what stands in front of it may stand in parentheses. -/
inductive Chain where
  | root (parameter : { name : String // IsIdent name })
  | dot (target : Chain) (name : { name : String // IsWord name })
  | index (target : Chain) (name : { name : String // IsWord name })
  | group (target : Chain)

namespace Chain

open PageComponent.Grammar PageComponent.Token

def parameter : Chain → String
  | root parameter => parameter
  | dot target _ | index target _ | group target => target.parameter

/-- The names behind the first one. -/
def names : Chain → List String
  | root _ => []
  | dot target name | index target name => target.names ++ [name.1]
  | group target => target.names

def spelling : Chain → List Char
  | root parameter => parameter.1.toList
  | dot target name => target.spelling ++ '.' :: name.1.toList
  | index target name => target.spelling ++ '[' :: ('\'' :: (name.1.toList ++ ['\'']) ++ [']'])
  | group target => '(' :: (target.spelling ++ [')'])

def source (chain : Chain) : String :=
  .ofList chain.spelling

/-- The path with plain dots only. -/
def dotted (chain : Chain) : String :=
  ".".intercalate (chain.parameter :: chain.names)

/-- What the source is parsed as. -/
def expr : Chain → Expr
  | root parameter => .ref parameter []
  | dot target name => target.expr.dot name
  | index target name => .member target.expr (.literal (.text name))
  | group target => target.expr

theorem isIdent_parameter (chain : Chain) : IsIdent chain.parameter := by
  induction chain with
  | root parameter => exact parameter.2
  | dot target name ih | index target name ih => exact ih
  | group target ih => exact ih

theorem isWord_of_mem_names (chain : Chain) : ∀ name ∈ chain.names, IsWord name := by
  induction chain with
  | root parameter => nofun
  | dot target name ih | index target name ih =>
    exact List.forall_mem_append.mpr ⟨ih, List.forall_mem_singleton.mpr name.2⟩
  | group target ih => exact ih

/-! ## Parsing -/

/-- What may stand behind a chain: its next name, a closing parenthesis or nothing. -/
def GoesOn (rest : List Char) : Prop :=
  ∀ c ∈ rest.head?, c ∈ ['.', '[', ')']

variable {rest : List Char} {pos : Nat} {name : String}

theorem goesOn_cons {c : Char} (h : c ∈ ['.', '[', ')']) : GoesOn (c :: rest) := by
  rintro d ⟨⟩
  exact h

theorem GoesOn.endsWord (h : GoesOn rest) : EndsWord rest := by
  have hall : ∀ c ∈ ['.', '[', ')'], Lexeme.isIdentPart c = false := by
    simp [Lexeme.isIdentPart]
  exact fun c hc => hall c (h c hc)

theorem GoesOn.endsOperator (h : GoesOn rest) (cs : List Char) : EndsOperator cs rest := by
  have hall : ∀ c ∈ ['.', '[', ')'], c ≠ '=' ∧ c.isDigit = false := by simp
  exact fun c hc => ⟨(hall c (h c hc)).1, fun _ => (hall c (h c hc)).2⟩

theorem starts_spelling (chain : Chain) : Starts chain.spelling := by
  induction chain with
  | root parameter => exact starts_of_isWord parameter.2.1
  | dot target name ih | index target name ih => exact ih.append _
  | group target ih => exact ⟨'(', _, rfl, by decide⟩

/-- A word has no characters to escape. -/
theorem exists_quoted (word : IsWord name) :
    ∃ p : Phrase, p.expr = .literal (.text name) ∧
      Yields (fun _ => True) pos ('\'' :: (name.toList ++ ['\''])) p.tokens := by
  have plain : ∀ c ∈ name.toList, c ≠ '\'' ∧ c ≠ '\\' := by
    obtain ⟨c, cs, hname, start, parts⟩ := word
    rw [hname]
    refine List.forall_mem_cons.mpr
      ⟨⟨ne_of_isIdentStart start rfl, ne_of_isIdentStart start rfl⟩, fun d mem => ⟨?_, ?_⟩⟩
    · rintro rfl
      cases parts _ mem
    · rintro rfl
      cases parts _ mem
  let t : Token := ⟨.string, .ofList name.toList, pos⟩
  have h : Yields (fun _ => True) pos ('\'' :: (name.toList ++ ['\''])) [t] :=
    yields_of_stands fun rest _ => .text (.inr rfl) (Lexeme.decodes_self plain)
  obtain ⟨p, htokens, hexpr⟩ :=
    (Prefixed.bare (.literal ⟨t, by simp [literalKinds, t]⟩) .nil).exists_phrase
  refine ⟨p, ?_, htokens ▸ h⟩
  rw [hexpr]
  exact congrArg _ (congrArg _ String.ofList_toList)

/-- At `pos`, the spelling is scanned as the tokens of a derivation without a prefix operator, so
that more names can be put behind it. -/
theorem exists_bare (chain : Chain) (pos : Nat) :
    ∃ p x, (Prefixed.bare p x).expr = chain.expr ∧
      Yields GoesOn pos chain.spelling (Prefixed.bare p x).tokens := by
  induction chain generalizing pos with
  | root parameter =>
    obtain ⟨t, hvalue, ht⟩ := @exists_ident pos parameter.1 parameter.2
    refine ⟨.ident t, .nil, ?_, ht.mono fun rest => GoesOn.endsWord⟩
    rw [expr, ← hvalue]
    rfl
  | dot target name ih =>
    obtain ⟨p, x, hexpr, hx⟩ := ih pos
    obtain ⟨dot, segment, hvalue, hsegment⟩ :=
      @exists_segment (pos + target.spelling.length) name.1 name.2
    obtain ⟨y, htokens, hy⟩ := x.exists_name dot segment
    refine ⟨p, y, ?_, ?_⟩
    · rw [Prefixed.expr, hy, hvalue, ← Prefixed.expr, hexpr, expr]
    · have h := hx.append hsegment fun rest _ => goesOn_cons (by decide)
      rw [Prefixed.tokens, htokens, ← List.append_assoc]
      exact h.mono fun rest => GoesOn.endsWord
  | index target name ih =>
    obtain ⟨p, x, hexpr, hx⟩ := ih pos
    obtain ⟨key, hkey, hquoted⟩ := @exists_quoted (pos + target.spelling.length + 1) name.1 name.2
    obtain ⟨opening, closing, henclosed⟩ :=
      @exists_enclosed _ _ GoesOn '[' ']' .lbracket .rbracket (by decide) _ _
        ⟨'\'', _, rfl, by decide⟩ hquoted (fun _ => trivial)
        fun _ hrest => hrest.endsOperator [']']
    obtain ⟨y, htokens, hy⟩ := x.exists_index opening key closing
    refine ⟨p, y, ?_, ?_⟩
    · rw [Prefixed.expr, hy, hkey, ← Prefixed.expr, hexpr, expr]
    · rw [Prefixed.tokens, htokens, ← List.append_assoc]
      exact hx.append henclosed fun rest _ => goesOn_cons (by decide)
  | group target ih =>
    obtain ⟨p, x, hexpr, hx⟩ := ih (pos + 1)
    obtain ⟨q, htokens, hq⟩ := (Prefixed.bare p x).exists_phrase
    obtain ⟨opening, closing, henclosed⟩ :=
      @exists_enclosed _ _ GoesOn '(' ')' .lparen .rparen (by decide) _ _
        (target.starts_spelling.append [')']) hx (fun _ => goesOn_cons (by decide))
        fun _ hrest => hrest.endsOperator [')']
    refine ⟨.group opening q closing, .nil, hq.trans hexpr, ?_⟩
    rw [Prefixed.tokens, Suffixes.tokens, List.append_nil, Primary.tokens, htokens]
    exact henclosed

/-- A name in brackets is no part of a reference, and neither is a name behind it. -/
theorem parse_source (chain : Chain) : Expr.parse chain.source = .ok chain.expr := by
  obtain ⟨p, x, hexpr, hx⟩ := chain.exists_bare 0
  rw [← hexpr]
  refine @Expr.parse_of_yields _ GoesOn _ ?_ nofun
  rw [source, String.toList_ofList]
  exact hx

example : Expr.parse "((a).b['c']).true" =
    .ok (.member (.member (.ref "a" ["b"]) (.literal (.text "c"))) (.literal (.text "true"))) := by
  cbv

/-- The dotted path is the print of a reference. -/
theorem parse_dotted (chain : Chain) :
    Expr.parse chain.dotted = .ok (.ref chain.parameter chain.names) := by
  obtain ⟨u, hu⟩ := @exists_reads_ref 0 _ _ chain.isIdent_parameter chain.isWord_of_mem_names
  rw [← hu.expr]
  exact Expr.parse_of_yields hu.yields nofun

/-! ## Evaluation -/

theorem evaluate_expr (params : Params) (chain : Chain) :
    chain.expr.evaluate params = (Expr.ref chain.parameter chain.names).evaluate params := by
  induction chain with
  | root parameter => rfl
  | dot target name ih =>
    rw [parameter, names, Expr.evaluate_ref_append, ← ih]
    exact Expr.evaluate_dot params target.expr name
  | index target name ih =>
    rw [parameter, names, Expr.evaluate_ref_append, ← ih]
    rfl
  | group target ih => exact ih

/-- Every spelling of a path is an expression, as the dotted path is, and over all parameters the
two have the same value or fail alike. -/
theorem evaluates_as_dotted (chain : Chain) :
    ∃ e f : Expr, Expr.parse chain.source = .ok e ∧ Expr.parse chain.dotted = .ok f ∧
      ∀ params, e.evaluate params = f.evaluate params :=
  ⟨chain.expr, .ref chain.parameter chain.names, chain.parse_source, chain.parse_dotted,
    fun params => evaluate_expr params chain⟩

end Chain

end PageComponent
