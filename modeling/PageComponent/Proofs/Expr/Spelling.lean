import Mathlib.Tactic.FinCases
import PageComponent.Proofs.Expr.Numerals
import PageComponent.Proofs.Text.Spans

/-!
# How a spelling is scanned

The scanner splits a text behind the spelling of a token, if what follows does not lengthen it.
-/

namespace PageComponent

namespace Text

/-- The characters that quoting leaves as they are, or escapes in a way that scanning undoes. -/
def isPlain (c : Char) : Bool :=
  isPrintable c || c == '\n' || c == '\r' || c == '\t'

theorem isBlank_of_printable_ascii {c : Char} (h : 0x21 ≤ c.toNat ∧ c.toNat ≤ 0x7E) :
    isBlank c = false := by
  simp [isBlank]
  omega

end Text

namespace Token

open PageComponent.Grammar PageComponent.Lexeme

/-- Scanning splits what begins with `cs`, at `pos`, behind the tokens `ts` of `cs`, if what is
left is as `follow` asks. -/
def Yields (follow : List Char → Prop) (pos : Nat) (cs : List Char) (ts : List Token) : Prop :=
  ∀ rest, follow rest →
    scan pos (cs ++ rest) = (scan (pos + cs.length) rest).map (ts ++ ·)

variable {P Q : List Char → Prop} {pos : Nat} {cs ds : List Char} {ts us : List Token}

theorem Yields.append (h : Yields P pos cs ts) (h' : Yields Q (pos + cs.length) ds us)
    (next : ∀ rest, Q rest → P (ds ++ rest)) : Yields Q pos (cs ++ ds) (ts ++ us) := by
  intro rest hrest
  rw [List.append_assoc, h _ (next rest hrest), h' rest hrest, List.length_append, Nat.add_assoc]
  cases scan (pos + (cs.length + ds.length)) rest with
  | error fault => rfl
  | ok vs => simp [Except.map]

theorem Yields.mono (h : Yields P pos cs ts) (hQ : ∀ rest, Q rest → P rest) :
    Yields Q pos cs ts :=
  fun rest hrest => h rest (hQ rest hrest)

theorem scan_nil (pos : Nat) : scan pos [] = .ok [] := by
  rw [scan.eq_def]

theorem scan_blank {c : Char} (h : Text.isBlank c) (cs : List Char) :
    scan pos (c :: cs) = scan (pos + 1) cs := by
  rw [scan.eq_def]
  exact if_pos h

theorem scan_lexeme {c : Char} {lexeme : Lexeme} (visible : Text.isBlank c = false)
    (h : read c cs pos = .ok lexeme) :
    scan pos (c :: cs) =
      (scan (pos + 1 + (lexeme.span - 1)) (cs.drop (lexeme.span - 1))).map
        (⟨lexeme.kind, .ofList lexeme.value, pos⟩ :: ·) := by
  rw [scan.eq_def]
  simp only [visible, h, Bool.false_eq_true, if_false, bind, Except.bind]
  cases scan (pos + 1 + (lexeme.span - 1)) (cs.drop (lexeme.span - 1)) <;> rfl

theorem Yields.scan_eq (h : Yields P pos cs ts) (hP : P []) : scan pos cs = .ok ts := by
  have hscan := h [] hP
  rw [scan_nil, List.append_nil] at hscan
  simpa [Except.map] using hscan

theorem yields_blank : Yields P pos [' '] [] := by
  intro rest _
  rw [List.singleton_append, scan_blank rfl, List.length_singleton]
  cases scan (pos + 1) rest <;> rfl

/-- A lexeme that spans the spelling is split off as one token. -/
theorem yields_of_read {c : Char} {kind : TokenKind} {value : List Char}
    (visible : Text.isBlank c = false)
    (h : ∀ rest, P rest → read c (cs ++ rest) pos = .ok ⟨kind, value, cs.length + 1⟩) :
    Yields P pos (c :: cs) [⟨kind, .ofList value, pos⟩] := by
  intro rest hrest
  rw [List.cons_append, scan_lexeme visible (h rest hrest)]
  simp only [Nat.add_sub_cancel, List.drop_left, List.length_cons, Nat.add_assoc, Nat.add_comm 1]
  rfl

/-! ## Words -/

theorem isIdentStart_iff {c : Char} : isIdentStart c ↔
    (65 ≤ c.toNat ∧ c.toNat ≤ 90) ∨ (97 ≤ c.toNat ∧ c.toNat ≤ 122) ∨ c = '_' ∨ c = '$' := by
  have halpha : c.isAlpha = (decide (c.val ≥ 65 ∧ c.val ≤ 90) ||
      (decide (c.val ≥ 97) && decide (c.val ≤ 122))) := rfl
  simp [isIdentStart, halpha, UInt32.le_iff_toNat_le, or_assoc]

theorem isBlank_of_isIdentStart {c : Char} (h : isIdentStart c) : Text.isBlank c = false := by
  rcases isIdentStart_iff.mp h with h | h | rfl | rfl
  · exact Text.isBlank_of_printable_ascii (by omega)
  · exact Text.isBlank_of_printable_ascii (by omega)
  · rfl
  · rfl

/-- The characters that begin a token other than a word. -/
theorem ne_of_isIdentStart {c d : Char} (h : isIdentStart c) (hd : isIdentStart d = false) :
    c ≠ d := by
  rintro rfl
  rw [h] at hd
  cases hd

theorem not_isDigit_of_isIdentStart {c : Char} (h : isIdentStart c) : c.isDigit = false := by
  rw [Bool.eq_false_iff]
  intro digit
  have bounds := Text.ascii_isDigit_iff.mp digit
  rcases isIdentStart_iff.mp h with h | h | rfl | rfl
  · omega
  · omega
  · cases digit
  · cases digit

theorem not_startsNumber {c : Char} {cs : List Char} (hd : c.isDigit = false) (hp : c ≠ '.') :
    startsNumber (c :: cs) = false := by
  cases h : startsNumber (c :: cs) with
  | false => rfl
  | true =>
    rcases startsNumber_cons h with hc | ⟨hc, -⟩
    · rw [hd] at hc
      cases hc
    · exact absurd hc hp

/-- Nothing that lengthens a word. -/
def EndsWord (rest : List Char) : Prop :=
  ∀ c ∈ rest.head?, isIdentPart c = false

theorem yields_word {c : Char} (start : isIdentStart c) (parts : ∀ d ∈ cs, isIdentPart d) :
    Yields EndsWord pos (c :: cs)
      [⟨(TokenKind.keywords.lookup (c :: cs)).getD .ident, .ofList (c :: cs), pos⟩] := by
  refine yields_of_read (isBlank_of_isIdentStart start) fun rest hrest => ?_
  have hquote : ¬(c = '"' ∨ c = '\'') :=
    not_or.mpr ⟨ne_of_isIdentStart start rfl, ne_of_isIdentStart start rfl⟩
  have hnumber : startsNumber (c :: (cs ++ rest)) = false :=
    not_startsNumber (not_isDigit_of_isIdentStart start) (ne_of_isIdentStart start rfl)
  simp only [Lexeme.read, hquote, hnumber, start, Text.takeWhile_append_of_head parts hrest,
    if_false, if_true, Bool.false_eq_true, List.length_cons]

/-! ## Numbers -/

/-- Nothing that lengthens a number. -/
def EndsNumber (rest : List Char) : Prop :=
  ∀ c ∈ rest.head?, c.isDigit = false ∧ c ≠ '.'

theorem numberPart_append {rest : List Char} (numeral : Numeral cs)
    (digit : ∀ c ∈ rest.head?, c.isDigit = false)
    (fraction : '.' ∉ cs → ∀ d behind, rest = '.' :: d :: behind → d.isDigit = false) :
    numberPart (cs ++ rest) = cs := by
  cases numeral with
  | whole ne digits =>
    have plain : '.' ∉ cs := fun mem => ne_point_of_isDigit (digits _ mem) rfl
    unfold numberPart
    rw [Text.takeWhile_append_of_head digits digit, Text.dropWhile_append_of_head digits digit]
    dsimp only
    split
    next d behind =>
      rw [fraction plain d _ rfl]
      rfl
    next => rfl
  | @pointed ws fs digits ne digits' =>
    obtain ⟨f, fs, rfl⟩ := List.exists_cons_of_ne_nil ne
    obtain ⟨first, others⟩ := List.forall_mem_cons.mp digits'
    have point : ∀ c ∈ ('.' :: f :: fs ++ rest).head?, c.isDigit = false := by
      rintro c ⟨⟩
      rfl
    unfold numberPart
    rw [List.append_assoc, Text.takeWhile_append_of_head digits point,
      Text.dropWhile_append_of_head digits point]
    simp only [List.cons_append, first, if_true, Text.takeWhile_append_of_head others digit]

theorem startsNumber_append {rest : List Char} (h : Numeral cs) : startsNumber (cs ++ rest) := by
  cases h with
  | whole ne digits =>
    obtain ⟨c, cs, rfl⟩ := List.exists_cons_of_ne_nil ne
    exact startsNumber_of_isDigit (digits c List.mem_cons_self)
  | @pointed ws fs digits ne digits' =>
    cases ws with
    | nil =>
      obtain ⟨f, fs, rfl⟩ := List.exists_cons_of_ne_nil ne
      exact digits' f List.mem_cons_self
    | cons w ws => exact startsNumber_of_isDigit (digits w List.mem_cons_self)

theorem numeral_head {cs : List Char} (h : Numeral cs) :
    ∃ c cs', cs = c :: cs' ∧ (c.isDigit ∨ c = '.') := by
  cases h with
  | whole ne digits =>
    obtain ⟨c, cs, rfl⟩ := List.exists_cons_of_ne_nil ne
    exact ⟨c, cs, rfl, .inl (digits c List.mem_cons_self)⟩
  | @pointed ws fs digits ne digits' =>
    cases ws with
    | nil => exact ⟨'.', fs, rfl, .inr rfl⟩
    | cons w ws => exact ⟨w, _, rfl, .inl (digits w List.mem_cons_self)⟩

theorem isBlank_of_isDigit {c : Char} (h : c.isDigit) : Text.isBlank c = false := by
  have bounds := Text.ascii_isDigit_iff.mp h
  exact Text.isBlank_of_printable_ascii (by omega)

theorem yields_number (h : Numeral cs) :
    Yields EndsNumber pos cs [⟨.number, .ofList cs, pos⟩] := by
  obtain ⟨c, cs, rfl, hc⟩ := numeral_head h
  have visible : Text.isBlank c = false := by
    rcases hc with hc | rfl
    · exact isBlank_of_isDigit hc
    · rfl
  have hquote : ¬(c = '"' ∨ c = '\'') := by
    rintro (rfl | rfl) <;> simp at hc
  refine yields_of_read visible fun rest hrest => ?_
  have hstart : startsNumber (c :: (cs ++ rest)) := startsNumber_append h
  have hpart : numberPart (c :: (cs ++ rest)) = c :: cs :=
    numberPart_append h (fun c hc => (hrest c hc).1) fun _ d behind eq =>
      absurd rfl (hrest '.' (by rw [eq]; rfl)).2
  simp only [Lexeme.read, hquote, hstart, hpart, if_false, if_true, List.length_cons]

/-! ## Texts -/

theorem readText_plain {quote c : Char} {start p : Nat} (hc : c ≠ '\\') (hq : c ≠ quote)
    (cs : List Char) : readText quote start p (c :: cs) =
      (readText quote start (p + 1) cs).map fun r => (c :: r.1, r.2 + 1) := by
  rw [readText.eq_def]
  split
  next h => cases h
  next h => cases h; exact absurd rfl hc
  next h => cases h; exact absurd rfl hc
  next h =>
    cases h
    rw [if_neg hq]
    generalize readText quote start _ cs = outcome
    cases outcome <;> rfl

theorem readText_escaped {quote c : Char} {start p : Nat} (cs : List Char) :
    readText quote start p ('\\' :: c :: cs) =
      (readText quote start (p + 2) cs).map fun r => (unescape c :: r.1, r.2 + 2) := by
  rw [readText]
  cases readText quote start (p + 2) cs <;> rfl

/-- Reading undoes the escape of one character. -/
theorem readText_escapeIn {quote c : Char} {start p : Nat} (hquote : quote = '"' ∨ quote = '\'')
    (plain : Text.isPlain c) (cs : List Char) :
    readText quote start p (Text.escapeIn quote c ++ cs) =
      (readText quote start (p + (Text.escapeIn quote c).length) cs).map
        fun r => (c :: r.1, r.2 + (Text.escapeIn quote c).length) := by
  unfold Text.escapeIn
  split
  next h =>
    have hc : unescape c = c := by
      rcases h with rfl | rfl
      · rcases hquote with rfl | rfl <;> rfl
      · rfl
    have hread := @readText_escaped quote c start p cs
    rw [hc] at hread
    exact hread
  next h =>
    obtain ⟨hq, hb⟩ := not_or.mp h
    split
    next h => subst h; exact readText_escaped cs
    split
    next h => subst h; exact readText_escaped cs
    split
    next h => subst h; exact readText_escaped cs
    split
    next h => exact readText_plain hb hq cs
    next hn hr ht hp => simp [Text.isPlain, hn, hr, ht, hp] at plain

theorem readText_escaped_all {quote : Char} {start p : Nat} (hquote : quote = '"' ∨ quote = '\'')
    (plain : ∀ c ∈ cs, Text.isPlain c) (rest : List Char) :
    readText quote start p (cs.flatMap (Text.escapeIn quote) ++ quote :: rest) =
      .ok (cs, (cs.flatMap (Text.escapeIn quote)).length + 1) := by
  induction cs generalizing p with
  | nil =>
    rcases hquote with rfl | rfl <;> rfl
  | cons c cs ih =>
    obtain ⟨hc, hcs⟩ := List.forall_mem_cons.mp plain
    rw [List.flatMap_cons, List.append_assoc, readText_escapeIn hquote hc, ih hcs,
      List.length_append]
    simp only [Except.map, Except.ok.injEq, Prod.mk.injEq, true_and]
    omega

theorem quoteFor_eq (cs : List Char) : Text.quoteFor cs = '"' ∨ Text.quoteFor cs = '\'' := by
  unfold Text.quoteFor
  split
  · exact .inl rfl
  · exact .inr rfl

theorem yields_text (plain : ∀ c ∈ cs, Text.isPlain c) :
    Yields P pos (Text.quote cs) [⟨.string, .ofList cs, pos⟩] := by
  have hquote := quoteFor_eq cs
  have visible : Text.isBlank (Text.quoteFor cs) = false := by
    rcases hquote with h | h <;> rw [h] <;> rfl
  have hcs : Text.quote cs =
      Text.quoteFor cs :: (cs.flatMap (Text.escapeIn (Text.quoteFor cs)) ++ [Text.quoteFor cs]) :=
    rfl
  rw [hcs]
  refine yields_of_read visible fun rest _ => ?_
  have hread := @readText_escaped_all cs (Text.quoteFor cs) pos (pos + 1) hquote plain rest
  rw [List.append_assoc, List.singleton_append, List.length_append, List.length_singleton]
  simp only [Lexeme.read, hquote, if_true, hread]
  rfl

/-! ## Operators -/

/-- Nothing that lengthens an operator, or makes a number of a point. -/
def EndsOperator (cs rest : List Char) : Prop :=
  ∀ c ∈ rest.head?, c ≠ '=' ∧ (cs = ['.'] → c.isDigit = false)

theorem find_operator {kind : TokenKind} {rest : List Char} (mem : (cs, kind) ∈ TokenKind.operators)
    (h : ∀ c ∈ rest.head?, c ≠ '=') :
    TokenKind.operators.find? (fun o => o.1.isPrefixOf (cs ++ rest)) = some (cs, kind) := by
  have heq : ∀ ds, List.isPrefixOf ('=' :: ds) rest = false := by
    intro ds
    cases rest with
    | nil => rfl
    | cons c rest => simp [List.isPrefixOf, (h c rfl).symm]
  fin_cases mem <;> simp [TokenKind.operators, List.isPrefixOf, heq]

theorem operator_head {kind : TokenKind} (mem : (cs, kind) ∈ TokenKind.operators) :
    ∃ c cs', cs = c :: cs' ∧ Text.isBlank c = false ∧ ¬(c = '"' ∨ c = '\'') ∧
      isIdentStart c = false ∧ c.isDigit = false ∧ (c = '.' → cs' = []) := by
  fin_cases mem <;> exact ⟨_, _, rfl, by decide⟩

theorem yields_operator {kind : TokenKind} (mem : (cs, kind) ∈ TokenKind.operators) :
    Yields (EndsOperator cs) pos cs [⟨kind, .ofList cs, pos⟩] := by
  obtain ⟨c, cs, rfl, visible, hquote, hstart, hdigit, hpoint⟩ := operator_head mem
  refine yields_of_read visible fun rest hrest => ?_
  have hfind := find_operator mem fun c hc => (hrest c hc).1
  have hnumber : startsNumber (c :: (cs ++ rest)) = false := by
    cases h : startsNumber (c :: (cs ++ rest)) with
    | false => rfl
    | true =>
      rcases startsNumber_cons h with hc | ⟨rfl, d, ds, hd, hdigit'⟩
      · rw [hdigit] at hc
        cases hc
      · obtain rfl := hpoint rfl
        rw [List.nil_append] at hd
        rw [(hrest d (by rw [hd]; rfl)).2 rfl] at hdigit'
        cases hdigit'
  simp only [Lexeme.read, hquote, hnumber, hstart, if_false, Bool.false_eq_true]
  rw [List.cons_append] at hfind
  rw [hfind]
  rfl

end Token

end PageComponent
