import Mathlib
import PageComponent.Proofs.Expr.Spelling

/-!
# Where the tokens of a source stand

The tokens of a source and the blanks around them make up all of it. Each token takes up a stretch
that is its spelling, for a text literal the quoted content, and nothing that follows would lengthen
it. A source that is not scanned is made up so as far as the place where no token begins.
-/

namespace PageComponent

namespace TokenKind

/-- No operator begins with one that stands before it in the table. -/
theorem operators_pairwise : operators.Pairwise fun o later => ¬o.1 <+: later.1 := by decide

theorem isBlank_of_mem_operator : ∀ o ∈ operators, ∀ c ∈ o.1, Text.isBlank c = false := by
  have visible : ∀ o ∈ operators, o.1.all (fun c => !Text.isBlank c) = true := by decide
  intro o mem c inner
  simpa using List.all_eq_true.mp (visible o mem) c inner

variable {cs rest : List Char} {kind : TokenKind}

/-- The first operator of the table that a text begins with is the longest one. -/
theorem find?_operators_iff :
    operators.find? (fun o => o.1.isPrefixOf cs) = some (rest, kind) ↔
      (rest, kind) ∈ operators ∧ rest <+: cs ∧ ∀ o ∈ operators, o.1 <+: cs → o.1 <+: rest := by
  rw [List.find?_eq_some_iff_append]
  simp only [List.isPrefixOf_iff_prefix, Bool.not_eq_true', Bool.eq_false_iff, ne_eq]
  constructor
  · rintro ⟨begins, before, later, table, others⟩
    have pairs := operators_pairwise
    rw [table, List.pairwise_append, List.pairwise_cons] at pairs
    refine ⟨by rw [table]; exact List.mem_append_right _ List.mem_cons_self, begins, ?_⟩
    intro o mem found
    rw [table, List.mem_append, List.mem_cons] at mem
    rcases mem with mem | rfl | mem
    · exact absurd found (others o mem)
    · exact List.prefix_refl _
    · apply (List.prefix_or_prefix_of_prefix found begins).resolve_right
      exact pairs.2.1.1 o mem
  · rintro ⟨mem, begins, longest⟩
    obtain ⟨before, later, table⟩ := List.append_of_mem mem
    refine ⟨begins, before, later, table, ?_⟩
    intro o earlier found
    have pairs := operators_pairwise
    rw [table, List.pairwise_append] at pairs
    apply pairs.2.2 o earlier (rest, kind) List.mem_cons_self
    exact longest o (by rw [table]; exact List.mem_append_left _ earlier) found

end TokenKind

namespace Lexeme

open PageComponent.Grammar

variable {quote c : Char} {body content cs span rest : List Char} {kind : TokenKind}
  {pos start : Nat}

/-! ## Text literals -/

def IsQuote (c : Char) : Prop :=
  c = '"' ∨ c = '\''

theorem IsQuote.visible (h : IsQuote quote) : Text.isBlank quote = false := by
  rcases h with rfl | rfl <;> rfl

/-- The content that a body in the given quotes stands for. A quote belongs to the body if a
backslash escapes it. -/
inductive Decodes (quote : Char) : (body content : List Char) → Prop where
  | nil : Decodes quote [] []
  | plain {c : Char} {body content : List Char} (inner : c ≠ quote) (unescaped : c ≠ '\\')
      (rest : Decodes quote body content) : Decodes quote (c :: body) (c :: content)
  | escaped {c : Char} {body content : List Char} (rest : Decodes quote body content) :
      Decodes quote ('\\' :: c :: body) (unescape c :: content)

theorem decodes_self (plain : ∀ c ∈ body, c ≠ quote ∧ c ≠ '\\') : Decodes quote body body := by
  induction body with
  | nil => exact .nil
  | cons c body ih =>
    obtain ⟨⟨inner, unescaped⟩, others⟩ := List.forall_mem_cons.mp plain
    exact .plain inner unescaped (ih others)

/-- What follows the part of a body that is decoded: the closing quote, or the end of the source
with or without a backslash before it. -/
inductive Halts (quote : Char) : List Char → Prop where
  | closed {rest : List Char} : Halts quote (quote :: rest)
  | unterminated : Halts quote []
  | dangling : Halts quote ['\\']

theorem exists_decodes (quote : Char) : ∀ cs : List Char,
    ∃ body content tail, Decodes quote body content ∧ Halts quote tail ∧ cs = body ++ tail
  | [] => ⟨[], [], [], .nil, .unterminated, rfl⟩
  | [c] => by
    by_cases closes : c = quote
    · exact ⟨[], [], [c], .nil, closes ▸ .closed, rfl⟩
    by_cases escapes : c = '\\'
    · exact ⟨[], [], [c], .nil, escapes ▸ .dangling, rfl⟩
    · exact ⟨[c], [c], [], .plain closes escapes .nil, .unterminated, rfl⟩
  | c :: d :: cs => by
    by_cases closes : c = quote
    · exact ⟨[], [], c :: d :: cs, .nil, closes ▸ .closed, rfl⟩
    by_cases escapes : c = '\\'
    · obtain ⟨body, content, tail, decodes, halts, rfl⟩ := exists_decodes quote cs
      subst escapes
      exact ⟨'\\' :: d :: body, _, tail, .escaped decodes, halts, rfl⟩
    · obtain ⟨body, content, tail, decodes, halts, eq⟩ := exists_decodes quote (d :: cs)
      exact ⟨c :: body, _, tail, .plain closes escapes decodes, halts, by rw [eq]; rfl⟩

theorem Decodes.readText_append (h : Decodes quote body content) (tail : List Char) :
    readText quote start pos (body ++ tail) =
      (readText quote start (pos + body.length) tail).map
        fun r => (content ++ r.1, r.2 + body.length) := by
  induction h generalizing pos with
  | nil =>
    rw [List.nil_append, List.length_nil, Nat.add_zero]
    cases readText quote start pos tail <;> rfl
  | @plain c body content inner unescaped rest ih =>
    rw [List.cons_append, Token.readText_plain unescaped inner, ih, List.length_cons,
      Nat.add_assoc, Nat.add_comm 1]
    cases readText quote start _ tail <;> rfl
  | @escaped c body content rest ih =>
    rw [List.cons_append, List.cons_append, Token.readText_escaped, ih, List.length_cons,
      List.length_cons, Nat.add_assoc, Nat.add_comm 2]
    cases readText quote start _ tail <;> rfl

theorem readText_closed (mark : IsQuote quote) (rest : List Char) :
    readText quote start pos (quote :: rest) = .ok ([], 1) := by
  rcases mark with rfl | rfl <;> rfl

/-! ## Single tokens -/

/-- The stretch `span` of a source, with `rest` behind it, is a token of the given kind and value.
What follows does not lengthen it. -/
inductive Stands : TokenKind → (value span rest : List Char) → Prop where
  | text {quote : Char} {body content rest : List Char} (mark : IsQuote quote)
      (decodes : Decodes quote body content) :
      Stands .string content (quote :: (body ++ [quote])) rest
  /-- A number without a point would take in a point that a digit follows. -/
  | number {cs rest : List Char} (numeral : Numeral cs)
      (digit : ∀ c ∈ rest.head?, c.isDigit = false)
      (fraction : '.' ∉ cs → ∀ d behind, rest = '.' :: d :: behind → d.isDigit = false) :
      Stands .number cs cs rest
  | word {c : Char} {cs rest : List Char} (start : isIdentStart c)
      (parts : ∀ d ∈ cs, isIdentPart d) (stop : ∀ d ∈ rest.head?, isIdentPart d = false) :
      Stands ((TokenKind.keywords.lookup (c :: cs)).getD .ident) (c :: cs) (c :: cs) rest
  /-- A point before a digit would begin a number. -/
  | operator {kind : TokenKind} {cs rest : List Char} (mem : (cs, kind) ∈ TokenKind.operators)
      (longest : ∀ o ∈ TokenKind.operators, o.1 <+: cs ++ rest → o.1 <+: cs)
      (point : cs = ['.'] → ∀ c ∈ rest.head?, c.isDigit = false) : Stands kind cs cs rest

/-- Why no token can be read at `pos`, where `cs` stands. -/
inductive Stuck (pos : Nat) : (cs : List Char) → ScanError → Prop where
  | character {c : Char} {cs : List Char} (visible : Text.isBlank c = false)
      (unquoted : ¬IsQuote c)
      (none : ∀ kind span, Spelled kind span → kind ≠ .string → ¬span <+: c :: cs) :
      Stuck pos (c :: cs) ⟨.unexpectedCharacter c, pos⟩
  /-- No quote closes the text literal. -/
  | text {quote : Char} {body content : List Char} (mark : IsQuote quote)
      (decodes : Decodes quote body content) : Stuck pos (quote :: body) ⟨.unterminatedText, pos⟩
  /-- The source ends behind a backslash in a text literal. -/
  | escape {quote : Char} {body content : List Char} (mark : IsQuote quote)
      (decodes : Decodes quote body content) :
      Stuck pos (quote :: (body ++ ['\\'])) ⟨.unterminatedEscape, pos + 1 + body.length⟩

theorem read_quote (mark : IsQuote quote) (cs : List Char) :
    read quote cs pos =
      (readText quote pos (pos + 1) cs).map fun r => ⟨.string, r.1, r.2 + 1⟩ := by
  have opened : quote = '"' ∨ quote = '\'' := mark
  rw [read, if_pos opened]
  cases readText quote pos (pos + 1) cs <;> rfl

/-! ## Numbers -/

/-- What follows the longest number at the front of a text. -/
theorem exists_numberPart (cs : List Char) :
    ∃ rest, cs = numberPart cs ++ rest ∧ (∀ c ∈ rest.head?, c.isDigit = false) ∧
      ('.' ∉ numberPart cs → ∀ d behind, rest = '.' :: d :: behind → d.isDigit = false) := by
  have whole := List.takeWhile_append_dropWhile (p := Char.isDigit) (l := cs)
  have stop := @Text.head?_dropWhile Char.isDigit cs
  unfold numberPart
  split
  next d behind found =>
    rw [found] at whole
    split
    next digit =>
      refine ⟨behind.dropWhile Char.isDigit, ?_, Text.head?_dropWhile, fun plain => ?_⟩
      · rw [List.append_assoc, List.cons_append, List.cons_append, List.takeWhile_append_dropWhile,
          whole]
      · exact absurd (List.mem_append_right _ List.mem_cons_self) plain
    next other =>
      refine ⟨'.' :: d :: behind, whole.symm, found ▸ stop, ?_⟩
      rintro - _ _ ⟨⟩
      exact Bool.eq_false_iff.mpr other
  next other =>
    refine ⟨cs.dropWhile Char.isDigit, whole.symm, stop, ?_⟩
    exact fun _ d behind found => absurd found (other d behind)

/-! ## Reading one token -/

theorem Stands.visible {value : List Char} (h : Stands kind value span rest) :
    ∃ c cs, span = c :: cs ∧ Text.isBlank c = false := by
  cases h with
  | text mark decodes => exact ⟨_, _, rfl, mark.visible⟩
  | number numeral digit fraction =>
    obtain ⟨c, cs, rfl, digit | rfl⟩ := Token.numeral_head numeral
    · exact ⟨c, cs, rfl, Token.isBlank_of_isDigit digit⟩
    · exact ⟨'.', cs, rfl, rfl⟩
  | word start parts stop => exact ⟨_, _, rfl, Token.isBlank_of_isIdentStart start⟩
  | operator mem longest point =>
    obtain ⟨c, cs, rfl, visible, _⟩ := Token.operator_head mem
    exact ⟨c, cs, rfl, visible⟩

theorem Stands.read_eq {value : List Char} (h : Stands kind value (c :: cs) rest) :
    read c (cs ++ rest) pos = .ok ⟨kind, value, cs.length + 1⟩ := by
  cases h with
  | @text quote body content _ mark decodes =>
    rw [read_quote mark, List.append_assoc, decodes.readText_append, List.singleton_append,
      readText_closed mark]
    simp [Except.map, Nat.add_comm]
  | number numeral digit fraction =>
    have starts : startsNumber (c :: (cs ++ rest)) = true := Token.startsNumber_append numeral
    have part : numberPart (c :: (cs ++ rest)) = c :: cs :=
      Token.numberPart_append numeral digit fraction
    have unquoted : ¬(c = '"' ∨ c = '\'') := by
      rcases startsNumber_cons starts with digit | ⟨rfl, _⟩
      · rintro (rfl | rfl) <;> cases digit
      · decide
    rw [read, if_neg unquoted, if_pos starts, part]
    rfl
  | word start parts stop =>
    have unquoted : ¬(c = '"' ∨ c = '\'') :=
      not_or.mpr ⟨Token.ne_of_isIdentStart start rfl, Token.ne_of_isIdentStart start rfl⟩
    have starts : startsNumber (c :: (cs ++ rest)) = false :=
      Token.not_startsNumber (Token.not_isDigit_of_isIdentStart start)
        (Token.ne_of_isIdentStart start rfl)
    simp only [read, unquoted, starts, start, Text.takeWhile_append_of_head parts stop, if_false,
      if_true, Bool.false_eq_true, List.length_cons]
  | operator mem longest point =>
    obtain ⟨d, ds, begins, _, unquoted, start, digit, alone⟩ := Token.operator_head mem
    obtain ⟨rfl, rfl⟩ := List.cons_eq_cons.mp begins
    have starts : startsNumber (c :: (cs ++ rest)) = false := by
      rw [Bool.eq_false_iff]
      intro starts
      rcases startsNumber_cons starts with found | ⟨rfl, e, es, behind, found⟩
      · rw [digit] at found
        cases found
      · obtain rfl := alone rfl
        rw [point rfl e (by rw [← List.nil_append rest, behind]; rfl)] at found
        cases found
    have found := TokenKind.find?_operators_iff.mpr ⟨mem, List.prefix_append _ rest, longest⟩
    rw [List.cons_append] at found
    simp only [read, unquoted, starts, start, if_false, Bool.false_eq_true]
    rw [found]
    rfl

/-- What is read off the front of a source is a token. -/
theorem exists_stands_of_read {lexeme : Lexeme} (h : read c cs pos = .ok lexeme) :
    ∃ span rest, cs = span ++ rest ∧ Stands lexeme.kind lexeme.value (c :: span) rest ∧
      lexeme.span = span.length + 1 := by
  by_cases mark : IsQuote c
  · obtain ⟨body, content, tail, decodes, halts, rfl⟩ := exists_decodes c cs
    rw [read_quote mark, decodes.readText_append] at h
    cases halts with
    | closed =>
      rw [readText_closed mark] at h
      cases h
      refine ⟨body ++ [c], _, by rw [List.append_assoc, List.singleton_append], ?_, ?_⟩
      · dsimp only
        rw [List.append_nil]
        exact .text mark decodes
      · simp [Nat.add_comm]
    | unterminated => cases h
    | dangling => cases h
  have unquoted : ¬(c = '"' ∨ c = '\'') := mark
  rw [read, if_neg unquoted] at h
  by_cases number : startsNumber (c :: cs) = true
  · rw [if_pos number] at h
    cases h
    obtain ⟨rest, eq, digit, fraction⟩ := exists_numberPart (c :: cs)
    have stands := Stands.number (numeral_numberPart number) digit fraction
    obtain ⟨d, span, begins, _⟩ := stands.visible
    dsimp only
    rw [begins] at eq stands ⊢
    obtain ⟨rfl, rfl⟩ := List.cons_eq_cons.mp eq
    exact ⟨span, rest, rfl, stands, rfl⟩
  rw [if_neg number] at h
  by_cases start : isIdentStart c = true
  · rw [if_pos start] at h
    cases h
    refine ⟨cs.takeWhile isIdentPart, cs.dropWhile isIdentPart,
      List.takeWhile_append_dropWhile.symm, ?_, rfl⟩
    exact .word start (fun d => List.mem_takeWhile_imp) Text.head?_dropWhile
  rw [if_neg start] at h
  split at h
  next spelling kind found =>
    cases h
    obtain ⟨mem, ⟨rest, eq⟩, longest⟩ := TokenKind.find?_operators_iff.mp found
    rw [← eq] at longest number
    have stands : Stands kind spelling spelling rest := by
      refine .operator mem longest ?_
      rintro rfl d head
      rw [Bool.eq_false_iff]
      intro digit
      obtain ⟨behind, rfl⟩ := List.head?_eq_some_iff.mp head
      exact number digit
    obtain ⟨d, span, rfl, _⟩ := stands.visible
    obtain ⟨rfl, rfl⟩ := List.cons_eq_cons.mp eq
    exact ⟨span, rest, rfl, stands, rfl⟩
  next => cases h

/-- Outside quotes reading fails exactly if no number, word or operator begins. -/
theorem read_eq_error_iff_of_unquoted {e : ScanError} (unquoted : ¬IsQuote c) :
    read c cs pos = .error e ↔ e = ⟨.unexpectedCharacter c, pos⟩ ∧
      ∀ kind span, Spelled kind span → kind ≠ .string → ¬span <+: c :: cs := by
  have opened : ¬(c = '"' ∨ c = '\'') := unquoted
  rw [read, if_neg opened]
  by_cases number : startsNumber (c :: cs) = true
  · rw [if_pos number]
    obtain ⟨rest, eq, _⟩ := exists_numberPart (c :: cs)
    refine iff_of_false (by simp) fun h => ?_
    exact h.2 .number _ (.number (numeral_numberPart number)) (by decide) ⟨rest, eq.symm⟩
  rw [if_neg number]
  by_cases start : isIdentStart c = true
  · rw [if_pos start]
    refine iff_of_false (by simp) fun h => ?_
    have name := word_kind [c]
    refine h.2 _ _ (.word start (List.forall_mem_nil _)) (fun string => ?_) ⟨cs, rfl⟩
    rw [string] at name
    exact absurd name (by decide)
  rw [if_neg start]
  cases found : TokenKind.operators.find? (fun o => o.1.isPrefixOf (c :: cs)) with
  | some o =>
    obtain ⟨mem, begins, _⟩ := TokenKind.find?_operators_iff.mp found
    refine iff_of_false (by simp) fun h => h.2 _ _ (.operator mem) (fun string => ?_) begins
    exact (operator_kind mem).1 (string ▸ by decide)
  | none =>
    constructor
    · rintro ⟨⟩
      refine ⟨rfl, fun kind span spelled other begins => ?_⟩
      cases spelled with
      | number numeral =>
        obtain ⟨rest, eq⟩ := begins
        exact number (eq ▸ Token.startsNumber_append numeral)
      | text => exact other rfl
      | word begun parts =>
        obtain ⟨rfl, _⟩ := List.cons_prefix_cons.mp begins
        exact start begun
      | operator mem =>
        have absent := List.find?_eq_none.mp found _ mem
        exact absent (List.isPrefixOf_iff_prefix.mpr begins)
    · rintro ⟨rfl, _⟩
      rfl

/-- Reading fails exactly if no token stands at the front of the source. -/
theorem read_eq_error_iff {e : ScanError} (visible : Text.isBlank c = false) :
    read c cs pos = .error e ↔ Stuck pos (c :: cs) e := by
  by_cases mark : IsQuote c
  · constructor
    · intro h
      obtain ⟨body, content, tail, decodes, halts, rfl⟩ := exists_decodes c cs
      rw [read_quote mark, decodes.readText_append] at h
      cases halts with
      | closed =>
        rw [readText_closed mark] at h
        cases h
      | unterminated =>
        cases h
        rw [List.append_nil]
        exact .text mark decodes
      | dangling =>
        cases h
        exact .escape mark decodes
    · rintro (⟨_, unquoted, _⟩ | ⟨_, decodes⟩ | ⟨_, decodes⟩)
      · exact absurd mark unquoted
      · rw [read_quote mark, ← List.append_nil cs, decodes.readText_append]
        rfl
      · rw [read_quote mark, decodes.readText_append]
        rfl
  · rw [read_eq_error_iff_of_unquoted mark]
    constructor
    · rintro ⟨rfl, none⟩
      exact .character visible mark none
    · rintro (⟨_, _, none⟩ | ⟨quoted, _⟩ | ⟨quoted, _⟩)
      · exact ⟨rfl, none⟩
      · exact absurd quoted mark
      · exact absurd quoted mark

theorem Stuck.visible {e : ScanError} (h : Stuck pos cs e) :
    ∃ c ds, cs = c :: ds ∧ Text.isBlank c = false := by
  cases h with
  | character visible unquoted none => exact ⟨_, _, rfl, visible⟩
  | text mark decodes => exact ⟨_, _, rfl, mark.visible⟩
  | escape mark decodes => exact ⟨_, _, rfl, mark.visible⟩

theorem Stuck.pos_lt {e : ScanError} (h : Stuck pos cs e) : e.pos < pos + cs.length := by
  cases h with
  | character => simp
  | text => simp
  | escape => simp; omega

end Lexeme

/-! ## Whole sources -/

namespace Token

open PageComponent.Lexeme

variable {rest gap cs span value : List Char} {kind : TokenKind} {ts : List Token} {pos : Nat}
  {e : ScanError}

/-- The text `cs`, which stands at `pos` of a source with `rest` behind it, is made up of the tokens
`ts` and of the blanks before, between and behind them. -/
inductive Tiles (rest : List Char) : (pos : Nat) → (cs : List Char) → List Token → Prop where
  | blanks {pos : Nat} {gap : List Char} (blank : ∀ c ∈ gap, Text.isBlank c = true) :
      Tiles rest pos gap []
  | token {pos : Nat} {gap span cs value : List Char} {kind : TokenKind} {ts : List Token}
      (blank : ∀ c ∈ gap, Text.isBlank c = true) (stands : Stands kind value span (cs ++ rest))
      (more : Tiles rest (pos + gap.length + span.length) cs ts) :
      Tiles rest pos (gap ++ (span ++ cs)) (⟨kind, .ofList value, pos + gap.length⟩ :: ts)

theorem Tiles.blank (blank : ∀ c ∈ gap, Text.isBlank c = true)
    (h : Tiles rest (pos + gap.length) cs ts) : Tiles rest pos (gap ++ cs) ts := by
  cases h with
  | blanks others => exact .blanks (List.forall_mem_append.mpr ⟨blank, others⟩)
  | @token _ gap' span cs value kind ts others stands more =>
    have more : Tiles rest (pos + (gap ++ gap').length + span.length) cs ts := by
      rwa [List.length_append, ← Nat.add_assoc]
    rw [← List.append_assoc, Nat.add_assoc, ← List.length_append]
    exact .token (List.forall_mem_append.mpr ⟨blank, others⟩) stands more

theorem Tiles.first (stands : Stands kind value span (cs ++ rest))
    (h : Tiles rest (pos + span.length) cs ts) :
    Tiles rest pos (span ++ cs) (⟨kind, .ofList value, pos⟩ :: ts) :=
  .token (List.forall_mem_nil _) stands h

/-! ### Scanning what is tiled -/

theorem scan_blanks (blank : ∀ c ∈ gap, Text.isBlank c = true) (cs : List Char) :
    scan pos (gap ++ cs) = scan (pos + gap.length) cs := by
  induction gap generalizing pos with
  | nil => rfl
  | cons c gap ih =>
    obtain ⟨first, others⟩ := List.forall_mem_cons.mp blank
    rw [List.cons_append, scan_blank first, ih others, List.length_cons, Nat.add_assoc,
      Nat.add_comm 1]

theorem scan_stands (h : Stands kind value span rest) :
    scan pos (span ++ rest) =
      (scan (pos + span.length) rest).map (⟨kind, .ofList value, pos⟩ :: ·) := by
  obtain ⟨c, cs, rfl, visible⟩ := h.visible
  rw [List.cons_append, scan_lexeme visible h.read_eq, Nat.add_sub_cancel, List.drop_left,
    List.length_cons, Nat.add_assoc, Nat.add_comm 1]

theorem yields_of_stands {P : List Char → Prop}
    (stands : ∀ rest, P rest → Stands kind value span rest) :
    Yields P pos span [⟨kind, .ofList value, pos⟩] :=
  fun rest hrest => scan_stands (stands rest hrest)

theorem Tiles.scan_eq (h : Tiles rest pos cs ts) :
    scan pos (cs ++ rest) = (scan (pos + cs.length) rest).map (ts ++ ·) := by
  induction h with
  | blanks blank =>
    rw [scan_blanks blank]
    cases scan _ rest <;> rfl
  | token blank stands more ih =>
    rw [List.append_assoc, scan_blanks blank, List.append_assoc, scan_stands stands, ih]
    simp only [List.length_append, ← Nat.add_assoc]
    cases scan _ rest <;> rfl

theorem scan_stuck (h : Stuck pos cs e) : scan pos cs = .error e := by
  obtain ⟨c, cs, rfl, visible⟩ := h.visible
  have failed := (read_eq_error_iff visible).mpr h
  rw [scan.eq_def]
  simp only [visible, failed, Bool.false_eq_true, if_false]
  rfl

/-! ### Tiling what is scanned -/

theorem tiles_or_stuck (pos : Nat) (cs : List Char) :
    (∃ ts, Tiles [] pos cs ts) ∨ ∃ e front rest ts,
      cs = front ++ rest ∧ Tiles rest pos front ts ∧ Stuck (pos + front.length) rest e := by
  fun_induction scan pos cs with
  | case1 pos => exact .inl ⟨[], .blanks (List.forall_mem_nil _)⟩
  | case2 pos c cs blank ih =>
    have blank : ∀ d ∈ [c], Text.isBlank d = true := List.forall_mem_singleton.mpr blank
    rcases ih with ⟨ts, tiles⟩ | ⟨e, front, rest, ts, rfl, tiles, stuck⟩
    · exact .inl ⟨ts, Tiles.blank blank tiles⟩
    · refine .inr ⟨e, c :: front, rest, ts, rfl, Tiles.blank blank tiles, ?_⟩
      rwa [List.length_cons, ← Nat.add_assoc, Nat.add_right_comm]
  | case3 pos c cs visible ih =>
    rw [Bool.not_eq_true] at visible
    cases found : Lexeme.read c cs pos with
    | error e =>
      have stuck := (read_eq_error_iff visible).mp found
      exact .inr ⟨e, [], c :: cs, [], rfl, .blanks (List.forall_mem_nil _), stuck⟩
    | ok lexeme =>
      obtain ⟨span, behind, rfl, stands, length⟩ := exists_stands_of_read found
      have ih := ih lexeme
      rw [length, Nat.add_sub_cancel, List.drop_left] at ih
      rw [Nat.add_right_comm, Nat.add_assoc, ← List.length_cons] at ih
      rcases ih with ⟨ts, tiles⟩ | ⟨e, front, rest, ts, rfl, tiles, stuck⟩
      · rw [← List.append_nil behind] at stands
        exact .inl ⟨_, Tiles.first stands tiles⟩
      · refine .inr ⟨e, c :: span ++ front, rest, _, ?_, Tiles.first stands tiles, ?_⟩
        · rw [List.append_assoc, List.cons_append]
        · rwa [List.length_append, ← Nat.add_assoc]

/-- A text is scanned exactly if it is tiled. -/
theorem scan_eq_ok_iff : scan pos cs = .ok ts ↔ Tiles [] pos cs ts := by
  have of_tiles {ts : List Token} (tiles : Tiles [] pos cs ts) : scan pos cs = .ok ts := by
    have scanned := tiles.scan_eq
    rw [scan_nil, List.append_nil] at scanned
    simpa [Except.map] using scanned
  constructor
  · intro h
    rcases tiles_or_stuck pos cs with ⟨us, tiles⟩ | ⟨e, front, rest, us, rfl, tiles, stuck⟩
    · rw [of_tiles tiles] at h
      cases h
      exact tiles
    · rw [tiles.scan_eq, scan_stuck stuck] at h
      cases h
  · exact of_tiles

/-- Scanning fails exactly where no token begins behind a part that is tiled. -/
theorem scan_eq_error_iff : scan pos cs = .error e ↔ ∃ front rest ts,
    cs = front ++ rest ∧ Tiles rest pos front ts ∧ Stuck (pos + front.length) rest e := by
  constructor
  · intro h
    rcases tiles_or_stuck pos cs with ⟨us, tiles⟩ | ⟨e', front, rest, us, rfl, tiles, stuck⟩
    · rw [scan_eq_ok_iff.mpr tiles] at h
      cases h
    · rw [tiles.scan_eq, scan_stuck stuck] at h
      cases h
      exact ⟨front, rest, us, rfl, tiles, stuck⟩
  · rintro ⟨front, rest, us, rfl, tiles, stuck⟩
    rw [tiles.scan_eq, scan_stuck stuck]
    rfl

/-! ### Places -/

theorem Tiles.place_mem (h : Tiles rest pos cs ts) :
    ∀ t ∈ ts, pos ≤ t.pos ∧ t.pos < pos + cs.length := by
  induction h with
  | blanks blank => exact nofun
  | @token pos gap span cs value kind ts blank stands more ih =>
    obtain ⟨c, ds, rfl, _⟩ := stands.visible
    simp only [List.length_append, List.length_cons] at ih ⊢
    rw [List.forall_mem_cons]
    refine ⟨⟨Nat.le_add_right _ _, by dsimp only; omega⟩, fun t mem => ?_⟩
    have bounds := ih t mem
    omega

/-- Every token stands behind the one before it. -/
theorem Tiles.ordered (h : Tiles rest pos cs ts) : ts.Pairwise fun t u => t.pos < u.pos := by
  induction h with
  | blanks blank => exact .nil
  | token blank stands more ih =>
    obtain ⟨c, ds, rfl, _⟩ := stands.visible
    refine .cons (fun u mem => ?_) ih
    have behind := (more.place_mem u mem).1
    rw [List.length_cons] at behind
    dsimp only
    omega

/-- Every token stands at its place, and what it takes up ends before the next one. -/
theorem Tiles.stands_mem (h : Tiles rest pos cs ts) : ∀ t ∈ ts, ∃ before span behind,
    cs = before ++ (span ++ behind) ∧ t.pos = pos + before.length ∧
      Stands t.kind t.value.toList span (behind ++ rest) ∧
      ∀ u ∈ ts, t.pos < u.pos → t.pos + span.length ≤ u.pos := by
  induction h with
  | blanks blank => exact nofun
  | @token pos gap span cs value kind ts blank stands more ih =>
    rw [List.forall_mem_cons]
    constructor
    · refine ⟨gap, span, cs, rfl, rfl, by rwa [String.toList_ofList], fun u mem later => ?_⟩
      rcases List.mem_cons.mp mem with rfl | mem
      · exact absurd later (Nat.lt_irrefl _)
      · exact (more.place_mem u mem).1
    · intro t mem
      obtain ⟨before, inner, behind, rfl, place, stands', later⟩ := ih t mem
      refine ⟨gap ++ (span ++ before), inner, behind, by simp, ?_, stands', fun u mem' => ?_⟩
      · rw [place, List.length_append, List.length_append, Nat.add_assoc, Nat.add_assoc]
      · rcases List.mem_cons.mp mem' with rfl | mem'
        · have bound := (more.place_mem t mem).1
          dsimp only
          omega
        · exact later u mem'

/-- Where the tokens of a source and its end stand. -/
structure Layout (source : String) (ts : List Token) : Prop where
  /-- There are only blanks before, between and behind the tokens. -/
  tiles : Tiles [] 0 source.toList ts
  /-- Each token stands at its place, and what it takes up ends before all that follows. -/
  stands : ∀ t ∈ ts, ∃ before span behind, source.toList = before ++ (span ++ behind) ∧
    t.pos = before.length ∧ Stands t.kind t.value.toList span behind ∧
    ∀ u ∈ ts ++ [stop source], t.pos < u.pos → t.pos + span.length ≤ u.pos
  ordered : (ts ++ [stop source]).Pairwise fun t u => t.pos < u.pos
  ending : stop source = ⟨.eof, "", source.length⟩

theorem layout_of_tiles {source : String} (h : Tiles [] 0 source.toList ts) : Layout source ts where
  tiles := h
  stands := by
    intro t mem
    obtain ⟨before, span, behind, eq, place, stands, later⟩ := h.stands_mem t mem
    rw [Nat.zero_add] at place
    rw [List.append_nil] at stands
    refine ⟨before, span, behind, eq, place, stands, fun u mem' => ?_⟩
    rcases List.mem_append.mp mem' with mem' | mem'
    · exact later u mem'
    · obtain rfl := List.mem_singleton.mp mem'
      intro _
      have whole := congrArg List.length eq
      rw [String.length_toList, List.length_append, List.length_append] at whole
      dsimp only [stop]
      omega
  ordered := by
    rw [List.pairwise_append]
    refine ⟨h.ordered, List.pairwise_singleton _ _, fun t mem u last => ?_⟩
    obtain rfl := List.mem_singleton.mp last
    have bound := (h.place_mem t mem).2
    rwa [Nat.zero_add, String.length_toList] at bound
  ending := rfl

/-- The tokens of a source are laid out without gaps but blanks, each as long as it can be; a source
without tokens is laid out so up to the place where no token begins. -/
theorem ofSource_layout (source : String) :
    (∀ ts, ofSource source = .ok ts ↔ Layout source ts) ∧
    (∀ e, ofSource source = .error e ↔ ∃ front rest ts,
      source.toList = front ++ rest ∧ Tiles rest 0 front ts ∧ Stuck front.length rest e) := by
  constructor
  · intro ts
    exact scan_eq_ok_iff.trans ⟨layout_of_tiles, Layout.tiles⟩
  · intro e
    have failed := @scan_eq_error_iff source.toList 0 e
    simp only [Nat.zero_add] at failed
    exact failed

/-- The longest operators come first, and a number takes in a point only before a digit. -/
example : ofSource "a!==1.5.b" = .ok [⟨.ident, "a", 0⟩, ⟨.strictNe, "!==", 1⟩, ⟨.number, "1.5", 4⟩,
    ⟨.dot, ".", 7⟩, ⟨.ident, "b", 8⟩] := by cbv

end Token

end PageComponent
