import PageComponent.Proofs.Expr.Tiling

/-!
# Tokens joined by blanks

Tokens that are spelled one after another, with blanks between them, are scanned as these tokens.
A text literal is spelled by escaping its quote and the backslash alone.
-/

namespace PageComponent

namespace Lexeme

open PageComponent.Grammar

variable {c : Char} {cs rest : List Char} {kind : TokenKind}

theorem not_isDigit_of_isBlank (blank : Text.isBlank c = true) : c.isDigit = false := by
  rw [Bool.eq_false_iff]
  intro digit
  rw [Token.isBlank_of_isDigit digit] at blank
  cases blank

theorem not_isIdentPart_of_isBlank (blank : Text.isBlank c = true) : isIdentPart c = false := by
  have digit := not_isDigit_of_isBlank blank
  have start : isIdentStart c = false := by
    rw [Bool.eq_false_iff]
    intro start
    rw [Token.isBlank_of_isIdentStart start] at blank
    cases blank
  simpa [isIdentStart, isIdentPart, Char.isAlphanum, digit] using start

/-! ## Blanks behind a token -/

/-- A token that blanks or nothing follow is as long as it can be. -/
theorem stands_of_spelled (spelled : Spelled kind cs) (other : kind ≠ .string)
    (blank : ∀ c ∈ rest.head?, Text.isBlank c = true) : Stands kind cs cs rest := by
  have digit : ∀ c ∈ rest.head?, c.isDigit = false :=
    fun c head => not_isDigit_of_isBlank (blank c head)
  cases spelled with
  | number numeral =>
    refine .number numeral digit ?_
    rintro - d behind rfl
    exact absurd (blank '.' rfl) (by decide)
  | text => exact absurd rfl other
  | word start parts =>
    exact .word start parts fun c head => not_isIdentPart_of_isBlank (blank c head)
  | operator mem =>
    refine .operator mem (fun o found begins => ?_) fun _ => digit
    obtain shorter | ⟨more, eq⟩ :=
      List.prefix_or_prefix_of_prefix begins (List.prefix_append cs rest)
    · exact shorter
    -- A longer operator would hold the blank.
    · rw [← eq, List.prefix_append_right_inj] at begins
      cases more with
      | nil =>
        obtain rfl : cs = o.1 := (List.append_nil cs).symm.trans eq
        exact List.prefix_refl _
      | cons c more =>
        obtain ⟨behind, rfl⟩ := begins
        have inner : c ∈ o.1 := eq ▸ List.mem_append_right _ List.mem_cons_self
        have visible := TokenKind.isBlank_of_mem_operator o found c inner
        rw [blank c rfl] at visible
        cases visible

/-! ## Escapes -/

/-- A character as a text literal in the given quotes holds it. -/
def escape (quote c : Char) : List Char :=
  if c = quote ∨ c = '\\' then ['\\', c] else [c]

theorem unescape_of_escaped {quote : Char} (mark : IsQuote quote) (h : c = quote ∨ c = '\\') :
    unescape c = c := by
  rcases h with rfl | rfl
  · rcases mark with rfl | rfl <;> rfl
  · rfl

theorem decodes_escape {quote : Char} (mark : IsQuote quote) (content : List Char) :
    Decodes quote (content.flatMap (escape quote)) content := by
  induction content with
  | nil => exact .nil
  | cons c content ih =>
    rw [List.flatMap_cons, escape]
    by_cases special : c = quote ∨ c = '\\'
    · have decodes := Decodes.escaped (c := c) ih
      rw [unescape_of_escaped mark special] at decodes
      rw [if_pos special]
      exact decodes
    · rw [if_neg special]
      obtain ⟨inner, unescaped⟩ := not_or.mp special
      exact .plain inner unescaped ih

end Lexeme

namespace Token

open PageComponent.Grammar PageComponent.Lexeme

/-- What a source can hold: a token, without its place. -/
inductive Symbol where
  | text (quote : { c : Char // IsQuote c }) (content : List Char)
  | number (digits : List Char) (numeral : Numeral digits)
  | ident (c : Char) (cs : List Char) (start : isIdentStart c) (parts : ∀ d ∈ cs, isIdentPart d)
      (other : c :: cs ∉ TokenKind.keywords.map (·.1))
  | keyword (word : List Char × TokenKind) (mem : word ∈ TokenKind.keywords)
  | operator (sign : List Char × TokenKind) (mem : sign ∈ TokenKind.operators)

namespace Symbol

def kind : Symbol → TokenKind
  | text _ _ => .string
  | number _ _ => .number
  | ident _ _ _ _ _ => .ident
  | keyword word _ => word.2
  | operator sign _ => sign.2

def value : Symbol → List Char
  | text _ content => content
  | number digits _ => digits
  | ident c cs _ _ _ => c :: cs
  | keyword word _ => word.1
  | operator sign _ => sign.1

/-- A text literal is written in its quotes, anything else is its value. -/
def spelling : Symbol → List Char
  | text quote content => quote :: (content.flatMap (escape quote) ++ [quote.1])
  | s => s.value

theorem lookup_eq_none {word : List Char} (h : word ∉ TokenKind.keywords.map (·.1)) :
    TokenKind.keywords.lookup word = none := by
  rw [List.lookup_eq_none_iff]
  intro entry mem
  rw [bne_iff_ne]
  rintro rfl
  exact h (List.mem_map_of_mem mem)

theorem spelled_keyword {word : List Char × TokenKind} (mem : word ∈ TokenKind.keywords) :
    Grammar.Spelled word.2 word.1 := by
  have words : ∀ entry ∈ TokenKind.keywords, ∃ c cs, entry.1 = c :: cs ∧ isIdentStart c = true ∧
      cs.all isIdentPart = true ∧
      (TokenKind.keywords.lookup (c :: cs)).getD .ident = entry.2 := by
    intro entry mem
    fin_cases mem <;> exact ⟨_, _, rfl, by decide⟩
  obtain ⟨c, cs, eq, start, parts, kind⟩ := words word mem
  rw [eq, ← kind]
  exact .word start (List.all_eq_true.mp parts)

/-- The spelling of a symbol is read as the symbol if blanks or nothing follow it. -/
theorem stands (s : Symbol) {rest : List Char} (blank : ∀ c ∈ rest.head?, Text.isBlank c = true) :
    Stands s.kind s.value s.spelling rest := by
  cases s with
  | text quote content => exact .text quote.2 (decodes_escape quote.2 content)
  | number digits numeral => exact stands_of_spelled (.number numeral) nofun blank
  | ident c cs start parts other =>
    have spelled := Grammar.Spelled.word start parts
    rw [lookup_eq_none other] at spelled
    exact stands_of_spelled spelled nofun blank
  | keyword word mem =>
    have other : ∀ entry ∈ TokenKind.keywords, entry.2 ≠ .string := by decide
    exact stands_of_spelled (spelled_keyword mem) (other word mem) blank
  | operator sign mem =>
    have other : ∀ entry ∈ TokenKind.operators, entry.2 ≠ .string := by decide
    exact stands_of_spelled (.operator mem) (other sign mem) blank

end Symbol

/-- Blanks, at least one. -/
abbrev Gap := { gap : List Char // gap ≠ [] ∧ ∀ c ∈ gap, Text.isBlank c = true }

/-- The spellings of the symbols; `gap n` stands behind the symbol of that number, the last one
excepted. -/
def join (gap : Nat → Gap) : List Symbol → List Char
  | [] => []
  | [s] => s.spelling
  | s :: t :: rest => s.spelling ++ ((gap 0).1 ++ join (fun n => gap (n + 1)) (t :: rest))

/-- What a token is apart from its place. -/
def content (t : Token) : TokenKind × String :=
  (t.kind, t.value)

theorem exists_tiles_join (gap : Nat → Gap) (symbols : List Symbol) (pos : Nat) :
    ∃ ts, Tiles [] pos (join gap symbols) ts ∧
      ts.map content = symbols.map fun s => (s.kind, .ofList s.value) := by
  induction symbols generalizing gap pos with
  | nil => exact ⟨[], .blanks nofun, rfl⟩
  | cons s symbols ih =>
    cases symbols with
    | nil =>
      have tiles : Tiles [] pos (s.spelling ++ []) [⟨s.kind, .ofList s.value, pos⟩] :=
        .first (s.stands nofun) (.blanks nofun)
      rw [List.append_nil] at tiles
      exact ⟨_, tiles, rfl⟩
    | cons t symbols =>
      obtain ⟨ne, blank⟩ := (gap 0).2
      obtain ⟨ts, tiles, contents⟩ := ih (fun n => gap (n + 1))
        (pos + s.spelling.length + (gap 0).1.length)
      have next : ∀ c ∈ ((gap 0).1 ++ join (fun n => gap (n + 1)) (t :: symbols) ++ []).head?,
          Text.isBlank c = true := by
        intro c head
        rw [List.append_assoc, List.head?_append_of_ne_nil _ ne] at head
        exact blank c (List.mem_of_mem_head? head)
      refine ⟨_, Tiles.first (s.stands next) (tiles.blank blank), ?_⟩
      rw [List.map_cons, contents]
      rfl

/-- Scanning undoes joining: the symbols come back, the end of the source behind them. -/
theorem ofSource_join (gap : Nat → Gap) (symbols : List Symbol) :
    ∃ ts, ofSource (.ofList (join gap symbols)) = .ok ts ∧
      (ts ++ [stop (.ofList (join gap symbols))]).map content =
        symbols.map (fun s => (s.kind, .ofList s.value)) ++ [(.eof, "")] := by
  obtain ⟨ts, tiles, contents⟩ := exists_tiles_join gap symbols 0
  refine ⟨ts, ?_, ?_⟩
  · rw [ofSource, String.toList_ofList]
    exact scan_eq_ok_iff.mpr tiles
  · rw [List.map_append, contents]
    rfl

end Token

end PageComponent
