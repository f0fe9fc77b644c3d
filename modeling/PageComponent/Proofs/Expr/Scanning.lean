import PageComponent.Proofs.Expr.Parsing
import PageComponent.Proofs.Text.Digits
import Mathlib.Data.List.TakeWhile

/-!
# What the scanner gives

Every token of a source is spelled as its kind asks: a number is a decimal numeral in ASCII digits,
a word is a keyword or an identifier, any other token is one of the operators.
-/

namespace PageComponent

namespace Grammar

/-- A decimal numeral: digits, among them at most one point, which a digit follows. -/
inductive Numeral : List Char → Prop where
  | whole {ds : List Char} (ne : ds ≠ []) (digits : ∀ c ∈ ds, c.isDigit) : Numeral ds
  | pointed {ws fs : List Char} (digits : ∀ c ∈ ws, c.isDigit) (ne : fs ≠ [])
      (digits' : ∀ c ∈ fs, c.isDigit) : Numeral (ws ++ '.' :: fs)

/-- How the tokens of each kind are spelled. -/
inductive Spelled : TokenKind → List Char → Prop where
  | number {cs : List Char} (numeral : Numeral cs) : Spelled .number cs
  | text {cs : List Char} : Spelled .string cs
  | word {c : Char} {cs : List Char} (start : Lexeme.isIdentStart c)
      (parts : ∀ d ∈ cs, Lexeme.isIdentPart d) :
      Spelled ((TokenKind.keywords.lookup (c :: cs)).getD .ident) (c :: cs)
  | operator {kind : TokenKind} {cs : List Char} (mem : (cs, kind) ∈ TokenKind.operators) :
      Spelled kind cs

end Grammar

namespace Lexeme

open PageComponent.Grammar

theorem startsNumber_of_isDigit {c : Char} {cs : List Char} (h : c.isDigit) :
    startsNumber (c :: cs) := by
  unfold startsNumber
  split
  next hc => cases hc; cases h
  next hc => cases hc; exact h
  next hc => cases hc

theorem startsNumber_cons {c : Char} {cs : List Char} (h : startsNumber (c :: cs)) :
    c.isDigit ∨ c = '.' ∧ ∃ d ds, cs = d :: ds ∧ d.isDigit := by
  unfold startsNumber at h
  split at h
  next hc =>
    cases hc
    exact .inr ⟨rfl, _, _, rfl, h⟩
  next hc =>
    cases hc
    exact .inl h
  next => cases h

theorem numeral_numberPart {c : Char} {cs : List Char} (h : startsNumber (c :: cs)) :
    Numeral (numberPart (c :: cs)) := by
  have digits : ∀ d ∈ (c :: cs).takeWhile Char.isDigit, d.isDigit :=
    fun d => List.mem_takeWhile_imp
  rcases startsNumber_cons h with hc | ⟨rfl, d, ds, rfl, hd⟩
  · have ne : (c :: cs).takeWhile Char.isDigit ≠ [] := by simp [hc]
    unfold numberPart
    split
    next d rest _ =>
      split
      next hd =>
        refine .pointed digits nofun (List.forall_mem_cons.mpr ⟨hd, ?_⟩)
        exact fun e => List.mem_takeWhile_imp
      next => exact .whole ne digits
    next => exact .whole ne digits
  · have hp : numberPart ('.' :: d :: ds) = [] ++ '.' :: d :: ds.takeWhile Char.isDigit := by
      simp [numberPart, hd]
    rw [hp]
    refine .pointed nofun nofun (List.forall_mem_cons.mpr ⟨hd, ?_⟩)
    exact fun e => List.mem_takeWhile_imp

theorem spelled_of_read {c : Char} {cs : List Char} {pos : Nat} {lexeme : Lexeme}
    (h : read c cs pos = .ok lexeme) : Spelled lexeme.kind lexeme.value := by
  unfold read at h
  split at h
  next =>
    obtain ⟨⟨content, n⟩, -, h⟩ := bind_eq_ok.mp h
    cases h
    exact .text
  split at h
  next hn =>
    cases h
    exact .number (numeral_numberPart hn)
  split at h
  next hs =>
    cases h
    exact .word hs fun d => List.mem_takeWhile_imp
  split at h
  next spelling kind hf =>
    cases h
    exact .operator (List.mem_of_find?_eq_some hf)
  next => cases h

end Lexeme

namespace Token

/-- The token is spelled as its kind asks. -/
def Spelled (t : Token) : Prop :=
  Grammar.Spelled t.kind t.value.toList

theorem spelled_of_scan {pos : Nat} {cs : List Char} {ts : List Token}
    (h : scan pos cs = .ok ts) : ∀ t ∈ ts, t.Spelled := by
  fun_induction scan pos cs generalizing ts with
  | case1 pos =>
    cases h
    exact nofun
  | case2 pos c cs hblank ih => exact ih h
  | case3 pos c cs hblank ih =>
    obtain ⟨lexeme, hread, h⟩ := bind_eq_ok.mp h
    obtain ⟨rest, hrest, h⟩ := bind_eq_ok.mp h
    cases h
    refine List.forall_mem_cons.mpr ⟨?_, ih lexeme hrest⟩
    simpa [Spelled] using Lexeme.spelled_of_read hread

theorem spelled_of_ofSource {source : String} {ts : List Token} (h : ofSource source = .ok ts) :
    ∀ t ∈ ts, t.Spelled :=
  spelled_of_scan h

end Token

namespace Grammar

/-! ## Literal tokens denote what they are read as -/

theorem word_kind (word : List Char) :
    (TokenKind.keywords.lookup word).getD .ident ∈ nameKinds := by
  simp only [TokenKind.keywords, List.lookup_cons, List.lookup_nil]
  repeat' split
  all_goals simp [nameKinds]

theorem operator_kind {kind : TokenKind} {cs : List Char} (h : (cs, kind) ∈ TokenKind.operators) :
    kind ∉ literalKinds ∧ kind ∉ nameKinds := by
  simp only [TokenKind.operators, List.mem_cons, Prod.mk.injEq, List.not_mem_nil, or_false] at h
  cases kind <;> simp [literalKinds, nameKinds] at h ⊢

theorem Spelled.numeral {kind : TokenKind} {cs : List Char} (h : Spelled kind cs)
    (hk : kind = .number) : Numeral cs := by
  cases h with
  | number numeral => exact numeral
  | text => cases hk
  | word start parts =>
    rename_i c cs
    have := word_kind (c :: cs)
    simp [hk, nameKinds] at this
  | operator mem => exact absurd (by simp [hk, literalKinds]) (operator_kind mem).1

section Numeral

variable {ds ws fs : List Char}

theorem ne_point_of_isDigit {c : Char} (h : c.isDigit) : c ≠ '.' := by
  rintro rfl
  cases h

theorem numeral_whole (digits : ∀ c ∈ ds, c.isDigit) :
    numeral ds = .int (Nat.ofDigitChars 10 ds 0) := by
  have hp : ∀ c ∈ ds, decide (c ≠ '.') = true :=
    fun c hc => decide_eq_true (ne_point_of_isDigit (digits c hc))
  simp only [numeral, List.takeWhile_eq_self_iff.mpr hp, List.dropWhile_eq_nil_iff.mpr hp]

theorem numeral_pointed (digits : ∀ c ∈ ws, c.isDigit) :
    numeral (ws ++ '.' :: fs) =
      .float (.ofDecimal false (Nat.ofDigitChars 10 (ws ++ fs) 0) (-fs.length)) := by
  have hp : ∀ c ∈ ws, decide (c ≠ '.') = true :=
    fun c hc => decide_eq_true (ne_point_of_isDigit (digits c hc))
  simp only [numeral, List.takeWhile_append_of_pos hp, List.dropWhile_append_of_pos hp]
  simp

theorem readDecimal?_whole (ne : ds ≠ []) (digits : ∀ c ∈ ds, c.isDigit) :
    Text.readDecimal? ds = some ⟨ds, none, none⟩ := by
  have hd : ∀ c ∈ ds, Text.isDigit c := fun c hc => Text.isDigit_of_isDigit (digits c hc)
  simp [Text.readDecimal?, List.takeWhile_eq_self_iff.mpr hd, List.dropWhile_eq_nil_iff.mpr hd, ne,
    Text.readExponent?]

theorem readDecimal?_pointed (digits : ∀ c ∈ ws, c.isDigit) (ne : fs ≠ [])
    (digits' : ∀ c ∈ fs, c.isDigit) :
    Text.readDecimal? (ws ++ '.' :: fs) = some ⟨ws, some fs, none⟩ := by
  have hw : ∀ c ∈ ws, Text.isDigit c := fun c hc => Text.isDigit_of_isDigit (digits c hc)
  have hf : ∀ c ∈ fs, Text.isDigit c := fun c hc => Text.isDigit_of_isDigit (digits' c hc)
  simp [Text.readDecimal?, List.takeWhile_append_of_pos hw, List.dropWhile_append_of_pos hw,
    List.takeWhile_eq_self_iff.mpr hf, List.dropWhile_eq_nil_iff.mpr hf, Text.isDigit_point, ne,
    Text.readExponent?]

theorem Numeral.atom?_eq {t : Token} (h : Numeral t.value.toList) (hk : t.kind = .number) :
    t.atom? = some (denotes t) := by
  simp only [Token.atom?, denotes, hk]
  generalize t.value.toList = cs at h
  cases h with
  | whole ne digits =>
    simp [readDecimal?_whole ne digits, numeral_whole digits, DecimalLiteral.isInteger,
      Text.digitsValue?_of_isDigit digits]
  | pointed digits ne digits' =>
    have hdigits := Text.digitsValue?_of_isDigit (List.forall_mem_append.mpr ⟨digits, digits'⟩)
    simp [readDecimal?_pointed digits ne digits', numeral_pointed digits, DecimalLiteral.isInteger,
      DecimalLiteral.value, DecimalLiteral.digits, hdigits]

end Numeral

theorem faithful_of_numerals {ts : List Token}
    (h : ∀ t ∈ ts, t.kind = .number → Numeral t.value.toList) : Faithful ts := by
  intro t ht hk
  by_cases hn : t.kind = .number
  · exact (h t ht hn).atom?_eq hn
  · unfold Token.atom? denotes
    generalize t.kind = kind at hk hn
    cases kind <;> simp [literalKinds] at hk hn ⊢

theorem faithful_of_spelled {ts : List Token} (h : ∀ t ∈ ts, t.Spelled) : Faithful ts :=
  faithful_of_numerals fun t ht hn => (h t ht).numeral hn

end Grammar

end PageComponent
