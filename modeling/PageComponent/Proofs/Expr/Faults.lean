import Mathlib
import PageComponent.Proofs.Expr.Lookahead
import PageComponent.Proofs.Expr.Tiling

/-!
# Where parsing fails

A source that has tokens but no expression is refused at the first token with which no expression
goes on, or at its end if its tokens only begin one.
-/

namespace PageComponent

namespace Grammar

/-! ## Sentences -/

/-- The tokens are those of an expression. Only their kinds matter: see `Sentence.alike`. -/
def Sentence (ts : List Token) : Prop :=
  ∃ p : Phrase, p.tokens = ts

/-- An expression begins with the tokens. -/
def Viable (ts : List Token) : Prop :=
  ∃ us, Sentence (ts ++ us)

theorem viable_iff_opens {ts : List Token} : Viable ts ↔ Opens Phrase.tokens ts := by
  constructor
  · rintro ⟨us, p, tokens⟩
    exact ⟨p, us, tokens.symm⟩
  · rintro ⟨p, us, tokens⟩
    exact ⟨us, p, tokens.symm⟩

/-! ### Only the kinds of tokens matter -/

section Kinds

variable {ts us : List Token}

/-- The two lists have tokens of the same kinds. -/
def Alike (ts us : List Token) : Prop :=
  ts.map Token.kind = us.map Token.kind

theorem Alike.of_append {us us' : List Token} (h : Alike ts (us ++ us')) :
    ∃ front back, ts = front ++ back ∧ Alike front us ∧ Alike back us' := by
  unfold Alike at h
  rw [List.map_append, List.map_eq_append_iff] at h
  exact h

theorem Alike.of_cons {kind : TokenKind} {t : Terminal kind} (h : Alike ts (t.1 :: us)) :
    ∃ (t' : Terminal kind) (back : List Token), ts = t'.1 :: back ∧ Alike back us := by
  unfold Alike at h
  rw [List.map_cons, List.map_eq_cons_iff] at h
  obtain ⟨t', back, rfl, same, alike⟩ := h
  exact ⟨⟨t', same.trans t.2⟩, back, rfl, alike⟩

theorem Alike.of_oneOf {kinds : List TokenKind} {t : OneOf kinds} (h : Alike ts (t.1 :: us)) :
    ∃ (t' : OneOf kinds) (back : List Token), ts = t'.1 :: back ∧ Alike back us := by
  obtain ⟨t', back, rfl, alike⟩ := @Alike.of_cons ts us t.1.kind ⟨t.1, rfl⟩ h
  exact ⟨⟨t'.1, by rw [t'.2]; exact t.2⟩, back, rfl, alike⟩

theorem Alike.of_nil (h : Alike ts []) : ts = [] :=
  List.map_eq_nil_iff.mp h

mutual

theorem Phrase.alike (p : Phrase) {ts : List Token} (h : Alike ts p.tokens) :
    ∃ q : Phrase, q.tokens = ts := by
  match p with
  | .plain test =>
    obtain ⟨test', tokens⟩ := test.alike h
    exact ⟨.plain test', tokens⟩
  | .conditional test question consequent colon alternate =>
    obtain ⟨_, _, rfl, first, h₁⟩ := h.of_append
    obtain ⟨question', _, rfl, h₂⟩ := h₁.of_cons
    obtain ⟨_, _, rfl, second, h₃⟩ := h₂.of_append
    obtain ⟨colon', _, rfl, third⟩ := h₃.of_cons
    obtain ⟨test', rfl⟩ := test.alike first
    obtain ⟨consequent', rfl⟩ := consequent.alike second
    obtain ⟨alternate', rfl⟩ := alternate.alike third
    exact ⟨.conditional test' question' consequent' colon' alternate', rfl⟩
termination_by structural p

theorem Operand.alike {levels : List Level} (o : Operand levels) {ts : List Token}
    (h : Alike ts o.tokens) : ∃ q : Operand levels, q.tokens = ts := by
  match o with
  | .tightest u =>
    obtain ⟨u', tokens⟩ := u.alike h
    exact ⟨.tightest u', tokens⟩
  | .chain first links =>
    obtain ⟨_, _, rfl, h₁, h'⟩ := h.of_append
    obtain ⟨first', rfl⟩ := first.alike h₁
    obtain ⟨links', rfl⟩ := links.alike h'
    exact ⟨.chain first' links', rfl⟩
termination_by structural o

theorem Links.alike {level : Level} {tighter : List Level} (l : Links level tighter)
    {ts : List Token} (h : Alike ts l.tokens) : ∃ q : Links level tighter, q.tokens = ts := by
  match l with
  | .nil => exact ⟨.nil, h.of_nil.symm⟩
  | .cons op mem sign right rest =>
    obtain ⟨sign', _, rfl, h₁⟩ := h.of_cons
    obtain ⟨_, _, rfl, h₂, h'⟩ := h₁.of_append
    obtain ⟨right', rfl⟩ := right.alike h₂
    obtain ⟨rest', rfl⟩ := rest.alike h'
    exact ⟨.cons op mem sign' right' rest', rfl⟩
termination_by structural l

theorem Prefixed.alike (u : Prefixed) {ts : List Token} (h : Alike ts u.tokens) :
    ∃ q : Prefixed, q.tokens = ts := by
  match u with
  | .sign op sign operand =>
    obtain ⟨sign', _, rfl, h₁⟩ := h.of_cons
    obtain ⟨operand', rfl⟩ := operand.alike h₁
    exact ⟨.sign op sign' operand', rfl⟩
  | .bare primary suffixes =>
    obtain ⟨_, _, rfl, h₁, h'⟩ := h.of_append
    obtain ⟨primary', rfl⟩ := primary.alike h₁
    obtain ⟨suffixes', rfl⟩ := suffixes.alike h'
    exact ⟨.bare primary' suffixes', rfl⟩
termination_by structural u

theorem Suffixes.alike (x : Suffixes) {ts : List Token} (h : Alike ts x.tokens) :
    ∃ q : Suffixes, q.tokens = ts := by
  match x with
  | .nil => exact ⟨.nil, h.of_nil.symm⟩
  | .name dot name rest =>
    obtain ⟨dot', _, rfl, h₁⟩ := h.of_cons
    obtain ⟨name', _, rfl, h₂⟩ := h₁.of_oneOf
    obtain ⟨rest', rfl⟩ := rest.alike h₂
    exact ⟨.name dot' name' rest', rfl⟩
  | .index opening key closing rest =>
    obtain ⟨opening', _, rfl, h₁⟩ := h.of_cons
    obtain ⟨_, _, rfl, inner, h₂⟩ := h₁.of_append
    obtain ⟨closing', _, rfl, h₃⟩ := h₂.of_cons
    obtain ⟨key', rfl⟩ := key.alike inner
    obtain ⟨rest', rfl⟩ := rest.alike h₃
    exact ⟨.index opening' key' closing' rest', rfl⟩
termination_by structural x

theorem Primary.alike (p : Primary) {ts : List Token} (h : Alike ts p.tokens) :
    ∃ q : Primary, q.tokens = ts := by
  match p with
  | .literal t =>
    obtain ⟨t', _, rfl, h₁⟩ := h.of_oneOf
    obtain rfl := h₁.of_nil
    exact ⟨.literal t', rfl⟩
  | .ident t =>
    obtain ⟨t', _, rfl, h₁⟩ := h.of_cons
    obtain rfl := h₁.of_nil
    exact ⟨.ident t', rfl⟩
  | .group opening inner closing =>
    obtain ⟨opening', _, rfl, h₁⟩ := h.of_cons
    obtain ⟨_, _, rfl, within, h₂⟩ := h₁.of_append
    obtain ⟨closing', _, rfl, h₃⟩ := h₂.of_cons
    obtain rfl := h₃.of_nil
    obtain ⟨inner', rfl⟩ := inner.alike within
    exact ⟨.group opening' inner' closing', rfl⟩
  | .call function opening arguments closing =>
    obtain ⟨function', _, rfl, h₁⟩ := h.of_cons
    obtain ⟨opening', _, rfl, h₂⟩ := h₁.of_cons
    obtain ⟨_, _, rfl, within, h₃⟩ := h₂.of_append
    obtain ⟨closing', _, rfl, h₄⟩ := h₃.of_cons
    obtain rfl := h₄.of_nil
    obtain ⟨arguments', rfl⟩ := arguments.alike within
    exact ⟨.call function' opening' arguments' closing', rfl⟩
termination_by structural p

theorem Arguments.alike (x : Arguments) {ts : List Token} (h : Alike ts x.tokens) :
    ∃ q : Arguments, q.tokens = ts := by
  match x with
  | .none => exact ⟨.none, h.of_nil.symm⟩
  | .some first more =>
    obtain ⟨_, _, rfl, h₁, h'⟩ := h.of_append
    obtain ⟨first', rfl⟩ := first.alike h₁
    obtain ⟨more', rfl⟩ := more.alike h'
    exact ⟨.some first' more', rfl⟩
termination_by structural x

theorem MoreArguments.alike (x : MoreArguments) {ts : List Token} (h : Alike ts x.tokens) :
    ∃ q : MoreArguments, q.tokens = ts := by
  match x with
  | .nil => exact ⟨.nil, h.of_nil.symm⟩
  | .cons comma next rest =>
    obtain ⟨comma', _, rfl, h₁⟩ := h.of_cons
    obtain ⟨_, _, rfl, h₂, h'⟩ := h₁.of_append
    obtain ⟨next', rfl⟩ := next.alike h₂
    obtain ⟨rest', rfl⟩ := rest.alike h'
    exact ⟨.cons comma' next' rest', rfl⟩
termination_by structural x

end

theorem Sentence.alike (h : Sentence us) (same : Alike ts us) : Sentence ts := by
  obtain ⟨p, rfl⟩ := h
  exact p.alike same

end Kinds

/-! ### Numbers that can be read -/

/-- The token, with zero as its value if it is a number. -/
def zeroed (t : Token) : Token :=
  if t.kind = .number then { t with value := "0" } else t

theorem zeroed_kind (t : Token) : (zeroed t).kind = t.kind := by
  unfold zeroed
  split <;> rfl

theorem faithful_zeroed (ts : List Token) : Faithful (ts.map zeroed) := by
  refine faithful_of_numerals fun t mem number => ?_
  obtain ⟨u, _, rfl⟩ := List.mem_map.mp mem
  rw [zeroed_kind] at number
  have zero : Numeral "0".toList := .whole (by decide) (by simp)
  rwa [zeroed, if_pos number]

end Grammar

namespace Expr

/-! ## What the parser refuses -/

open PageComponent.Grammar

variable {stop : Token} {ts used : List Token}

theorem not_fails_of_sentence (good : Faithful ts) (h : Sentence ts) :
    ¬Fails (ofTokens stop ts) := by
  obtain ⟨p, rfl⟩ := h
  have read := @Phrase.complete stop [] p good closes_nil
  rw [List.append_nil] at read
  rw [ofTokens_eq, read]
  exact not_fails_ok p.expr

/-- Tokens that the parser refuses whatever follows them begin no expression. -/
theorem not_viable_of_fails (good : Faithful used)
    (fails : ∀ us, Fails (ofTokens stop (used ++ us))) : ¬Viable used := by
  rintro ⟨us, sentence⟩
  have alike : Alike (used ++ us.map zeroed) (used ++ us) := by
    simp only [Alike, List.map_append, List.map_map, Function.comp_def, zeroed_kind]
  refine not_fails_of_sentence ?_ (sentence.alike alike) (fails (us.map zeroed))
  intro t mem
  rcases List.mem_append.mp mem with mem | mem
  · exact good t mem
  · exact faithful_zeroed us t mem

/-- What the parser takes before it fails begins an expression, and it fails alike on all lists that
begin with that and go on with the same token. -/
theorem ofTokens_eq_error (good : Faithful ts) {fault : ParseError}
    (h : ofTokens stop ts = .error fault) :
    ∃ used rest, ts = used ++ rest ∧ Viable used ∧ fault.pos = (next stop rest).pos ∧
      ∀ rest', rest'.head? = rest.head? → Fails (ofTokens stop (used ++ rest')) := by
  rw [ofTokens_eq] at h
  cases readExpr_looks ts good with
  | error e used rest eq opened place fails =>
    rw [eq, fails rest rfl] at h
    cases h
    refine ⟨used, rest, eq, viable_iff_opens.mpr opened, place, fun rest' head => ?_⟩
    rw [ofTokens_eq, fails rest' head]
    exact ⟨_, rfl⟩
  | ok e used rest eq read =>
    obtain ⟨p, hp⟩ := readExpr_splits good e rest (eq ▸ read rest rfl)
    obtain rfl : used = p.tokens := List.append_cancel_right (eq.symm.trans hp)
    rw [eq, read rest rfl] at h
    cases rest with
    | nil => cases h
    | cons t rest =>
      cases h
      refine ⟨p.tokens, t :: rest, eq, ⟨[], p, (List.append_nil _).symm⟩, rfl, fun rest' head => ?_⟩
      obtain ⟨r, rfl⟩ := List.head?_eq_some_iff.mp head
      rw [ofTokens_eq, read (t :: r) rfl]
      exact ⟨⟨.trailing t, t.pos⟩, rfl⟩

end Expr

namespace Grammar

/-! ## The first token with which no expression goes on -/

/-- The first `k` tokens begin an expression, but with the next one none goes on, or there is no
next one and the tokens are not yet an expression. -/
structure FailsAt (ts : List Token) (k : Nat) : Prop where
  within : k ≤ ts.length
  viable : Viable (ts.take k)
  token : k < ts.length → ¬Viable (ts.take (k + 1))
  ending : k = ts.length → ¬Sentence ts

variable {ts us : List Token} {k k' : Nat}

theorem Viable.of_isPrefix (h : Viable us) (front : ts <+: us) : Viable ts := by
  rw [viable_iff_opens] at h ⊢
  obtain ⟨p, begins⟩ := h
  exact ⟨p, front.trans begins⟩

theorem FailsAt.not_lt (h : FailsAt ts k) (h' : FailsAt ts k') : ¬k < k' := by
  intro lt
  apply h.token (Nat.lt_of_lt_of_le lt h'.within)
  exact h'.viable.of_isPrefix (List.take_prefix_take_left lt)

theorem FailsAt.unique (h : FailsAt ts k) (h' : FailsAt ts k') : k' = k :=
  Nat.le_antisymm (Nat.not_lt.mp (h.not_lt h')) (Nat.not_lt.mp (h'.not_lt h))

end Grammar

namespace Expr

open PageComponent.Grammar

variable {stop : Token} {ts used rest : List Token} {source : String}

theorem failsAt_length (good : Faithful (used ++ rest)) (viable : Viable used)
    (fails : ∀ rest', rest'.head? = rest.head? → Fails (ofTokens stop (used ++ rest'))) :
    FailsAt (used ++ rest) used.length where
  within := by simp
  viable := by rwa [List.take_left]
  token := by
    intro lt
    cases rest with
    | nil => simp at lt
    | cons t rest =>
      have good_next : Faithful (used ++ [t]) := fun u mem => good u <| by
        simp only [List.mem_append, List.mem_cons, List.not_mem_nil, or_false] at mem ⊢
        exact mem.imp_right .inl
      rw [List.take_length_add_append, List.take_succ_cons, List.take_zero]
      refine @not_viable_of_fails stop _ good_next fun us => ?_
      rw [List.append_assoc]
      exact fails (t :: us) rfl
  ending := by
    intro eq sentence
    obtain rfl : rest = [] := by simpa using eq
    exact not_fails_of_sentence good sentence (fails [] rfl)

theorem getElem?_next (used rest : List Token) (stop : Token) :
    (used ++ rest ++ [stop])[used.length]? = some (next stop rest) := by
  rw [List.append_assoc, List.getElem?_append_right (Nat.le_refl _), Nat.sub_self]
  cases rest <;> rfl

theorem pos_le_of_ofSource (scanned : Token.ofSource source = .ok ts) :
    ∀ t ∈ ts ++ [Token.stop source], t.pos ≤ source.length := by
  intro t mem
  rcases List.mem_append.mp mem with mem | mem
  · have bound := ((Token.scan_eq_ok_iff.mp scanned).place_mem t mem).2
    rw [Nat.zero_add, String.length_toList] at bound
    exact Nat.le_of_lt bound
  · obtain rfl := List.mem_singleton.mp mem
    exact Nat.le_refl _

theorem pos_lt_of_ofSource_eq_error {e : ScanError} (refused : Token.ofSource source = .error e) :
    e.pos < source.length := by
  obtain ⟨front, rest, us, eq, tiles, stuck⟩ := Token.scan_eq_error_iff.mp refused
  have length := congrArg List.length eq
  rw [String.length_toList, List.length_append] at length
  have bound := stuck.pos_lt
  omega

/-- A source is refused at the first token with which no expression goes on. This is never a place
behind the end of the source. -/
theorem parse_error_at_first_impossible (source : String) (fault : ParseError)
    (h : parse source = .error fault) :
    (∀ ts, Token.ofSource source = .ok ts →
      ∃ k t, (ts ++ [Token.stop source])[k]? = some t ∧ fault.pos = t.pos ∧ FailsAt ts k ∧
        ∀ k', FailsAt ts k' → k' = k) ∧
    fault.pos ≤ source.length := by
  unfold parse at h
  cases scanned : Token.ofSource source with
  | error e =>
    rw [scanned] at h
    cases h
    exact ⟨nofun, Nat.le_of_lt (pos_lt_of_ofSource_eq_error scanned)⟩
  | ok ts =>
    rw [scanned] at h
    have good := faithful_of_spelled (Token.spelled_of_ofSource scanned)
    obtain ⟨used, rest, rfl, viable, place, fails⟩ := ofTokens_eq_error good h
    have failsAt := failsAt_length good viable fails
    have there := getElem?_next used rest (Token.stop source)
    constructor
    · rintro _ ⟨⟩
      exact ⟨used.length, _, there, place, failsAt, fun k' => failsAt.unique⟩
    · rw [place]
      exact pos_le_of_ofSource scanned _ (List.mem_of_getElem? there)

/-- The parenthesis closes a call in which a conditional still lacks its colon. -/
theorem parse_error_before_colon :
    parse "f(a ? b)" = .error ⟨.expected .colon ⟨.rparen, ")", 7⟩, 7⟩ ∧
    ∃ ts, Token.ofSource "f(a ? b)" = .ok ts ∧ ts.length = 6 ∧ FailsAt ts 5 := by
  have refused : parse "f(a ? b)" = .error ⟨.expected .colon ⟨.rparen, ")", 7⟩, 7⟩ := by cbv
  have scanned : Token.ofSource "f(a ? b)" = .ok [⟨.ident, "f", 0⟩, ⟨.lparen, "(", 1⟩,
      ⟨.ident, "a", 2⟩, ⟨.question, "?", 4⟩, ⟨.ident, "b", 6⟩, ⟨.rparen, ")", 7⟩] := by cbv
  refine ⟨refused, _, scanned, rfl, ?_⟩
  obtain ⟨k, t, there, place, failsAt, _⟩ :=
    (parse_error_at_first_impossible _ _ refused).1 _ scanned
  obtain rfl : k = 5 := by
    have within : k ≤ 6 := failsAt.within
    interval_cases k <;> cases there <;> cases place
    rfl
  exact failsAt

end Expr

end PageComponent
