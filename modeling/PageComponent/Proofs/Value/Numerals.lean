import PageComponent.Proofs.Number.Recovery
import PageComponent.Proofs.Text.Characters
import PageComponent.Value.Conversion

/-!
# Texts and numbers

A text is a number if without the blanks around it it is empty or a numeral: an infinity, a decimal
or an integer in another radix. The decimals may have digits of any script, so those in ASCII are
not all of them. An integer that is not too large is read as it is, with all its digits. The text of
a number lays out the digits of the number, and that of an integer is read as the integer.
-/

namespace PageComponent

namespace Text

variable {digit digit' : Char → Nat → Prop} {cs ds sign text : List Char} {negative : Bool}
  {n : Nat} {i : Int} {q : ℚ}

/-! ## The grammar -/

def radixLetters : List (Char × Nat) :=
  [('x', 16), ('X', 16), ('o', 8), ('O', 8), ('b', 2), ('B', 2)]

/-- An integer without sign in the radix of its second letter. -/
inductive IsRadixNumeral : List Char → Nat → Prop where
  | mk {letter : Char} {radix : Nat} {ds : List Char} {n : Nat}
      (mem : (letter, radix) ∈ radixLetters) (filled : ds ≠ [])
      (spelled : Spells (IsDigitOf radix) radix ds n) : IsRadixNumeral ('0' :: letter :: ds) n

/-- The texts that are numbers, where decimals have digits of the given kind. -/
inductive IsNumeral (digit : Char → Nat → Prop) : List Char → Prop where
  | infinity {sign : List Char} {negative : Bool} (signed : IsSign sign negative) :
      IsNumeral digit (sign ++ "Infinity".toList)
  | decimal {sign cs : List Char} {negative : Bool} {q : ℚ} (signed : IsSign sign negative)
      (decimal : IsDecimal digit cs q) : IsNumeral digit (sign ++ cs)
  | radix {cs : List Char} {n : Nat} (numeral : IsRadixNumeral cs n) : IsNumeral digit cs

/-- The texts that are integers without point and exponent. -/
inductive IsInteger (digit : Char → Nat → Prop) : List Char → Int → Prop where
  | decimal {sign ds : List Char} {negative : Bool} {n : Nat} (signed : IsSign sign negative)
      (filled : ds ≠ []) (spelled : Spells digit 10 ds n) :
      IsInteger digit (sign ++ ds) (Binary.signed negative n)
  | radix {cs : List Char} {n : Nat} (numeral : IsRadixNumeral cs n) : IsInteger digit cs n

/-! ## Reading -/

theorem radixValue?_zero (filled : ds ≠ []) : radixValue? 0 ds = none := by
  cases ds with
  | nil => exact absurd rfl filled
  | cons d ds =>
    have none : radixDigit? 0 d = none := by simp [radixDigit?]
    rw [radixValue?, List.foldlM_cons, none]
    rfl

theorem readRadix?_of_mem {letter : Char} {radix : Nat} (mem : (letter, radix) ∈ radixLetters)
    (filled : ds ≠ []) : readRadix? ('0' :: letter :: ds) = radixValue? radix ds := by
  have filled : ¬ds.isEmpty = true := by simpa using filled
  simp only [radixLetters, List.mem_cons, Prod.mk.injEq, List.not_mem_nil, or_false] at mem
  rcases mem with ⟨rfl, rfl⟩ | ⟨rfl, rfl⟩ | ⟨rfl, rfl⟩ | ⟨rfl, rfl⟩ | ⟨rfl, rfl⟩ | ⟨rfl, rfl⟩ <;>
    exact if_neg filled

theorem le_sixteen_of_mem {letter : Char} {radix : Nat} (mem : (letter, radix) ∈ radixLetters) :
    radix ≤ 16 := by
  have all : ∀ entry ∈ radixLetters, entry.2 ≤ 16 := by decide
  exact all _ mem

theorem isRadixNumeral_of_readRadix? (read : readRadix? cs = some n) : IsRadixNumeral cs n := by
  unfold readRadix? at read
  split at read
  next letter ds =>
    dsimp only at read
    rw [Option.ite_none_left_eq_some] at read
    obtain ⟨filled, read⟩ := read
    have filled : ds ≠ [] := by simpa using filled
    have of_mem {radix : Nat} (mem : (letter, radix) ∈ radixLetters)
        (read : radixValue? radix ds = some n) : IsRadixNumeral ('0' :: letter :: ds) n :=
      .mk mem filled ((radixValue?_eq_some_iff (le_sixteen_of_mem mem)).mp read)
    split at read
    next letters => exact of_mem (by rcases letters with rfl | rfl <;> decide) read
    split at read
    next letters => exact of_mem (by rcases letters with rfl | rfl <;> decide) read
    split at read
    next letters => exact of_mem (by rcases letters with rfl | rfl <;> decide) read
    next =>
      rw [radixValue?_zero filled] at read
      cases read
  next => cases read

theorem readRadix?_eq_some_iff : readRadix? cs = some n ↔ IsRadixNumeral cs n := by
  refine ⟨isRadixNumeral_of_readRadix?, fun numeral => ?_⟩
  cases numeral with
  | mk mem filled spelled =>
    rw [readRadix?_of_mem mem filled]
    exact (radixValue?_eq_some_iff (le_sixteen_of_mem mem)).mpr spelled

theorem ofDecimal_ne_nan (negative : Bool) (n : Nat) (e : Int) :
    Binary.ofDecimal negative n e ≠ .nan := by
  have ofFraction (n d : Nat) : Binary.ofFraction negative n d ≠ .nan := by
    intro nan
    have infinite : Binary.ofFraction negative n d = .infinite negative := by
      apply Binary.eq_infinite_of_ofFraction
      rw [nan]
      exact Bool.false_ne_true
    rw [nan] at infinite
    cases infinite
  unfold Binary.ofDecimal
  dsimp only
  split
  · exact nofun
  split
  · exact nofun
  split
  · exact ofFraction _ _
  · exact ofFraction _ _

theorem toNumber_eq_nan_iff : toNumber text = .nan ↔
    trim text ≠ [] ∧ readRadix? (trim text) = none ∧
      (takeSign (trim text)).2 ≠ "Infinity".toList ∧
      readDecimal? (takeSign (trim text)).2 = none := by
  unfold toNumber
  dsimp only
  split
  next empty =>
    refine iff_of_false nofun fun h => h.1 (by simpa using empty)
  next filled =>
    have filled : trim text ≠ [] := by simpa using filled
    cases readRadix? (trim text) with
    | some n => exact iff_of_false nofun fun h => nomatch h.2.1
    | none =>
      dsimp only
      split
      next infinity => exact iff_of_false nofun fun h => h.2.2.1 infinity
      next other =>
        cases readDecimal? (takeSign (trim text)).2 with
        | none => exact iff_of_true rfl ⟨filled, rfl, other, rfl⟩
        | some d =>
          refine iff_of_false (fun nan => ?_) fun h => nomatch h.2.2.2
          dsimp only at nan
          split at nan
          next => cases nan
          next => exact ofDecimal_ne_nan _ _ _ (Number.float.inj nan)

/-! ## Numerals -/

/-- A text is a number exactly if it is blank or a numeral in the digits of any script. -/
theorem toNumber_ne_nan_iff :
    toNumber text ≠ .nan ↔ trim text = [] ∨ IsNumeral IsScriptDigit (trim text) := by
  rw [ne_eq, toNumber_eq_nan_iff]
  generalize trim text = t
  constructor
  · intro number
    by_cases filled : t = []
    · exact .inl filled
    obtain ⟨sign, signed, eq⟩ := exists_takeSign t
    refine .inr ?_
    cases radix : readRadix? t with
    | some n => exact .radix (readRadix?_eq_some_iff.mp radix)
    | none =>
      by_cases infinity : (takeSign t).2 = "Infinity".toList
      · rw [eq, infinity]
        exact .infinity signed
      · cases decimal : readDecimal? (takeSign t).2 with
        | some d =>
          rw [eq]
          exact .decimal signed (isDecimal_iff.mpr ⟨d, decimal, rfl⟩)
        | none => exact absurd ⟨filled, radix, infinity, decimal⟩ number
  · rintro (empty | numeral) ⟨filled, radix, noInfinity, noDecimal⟩
    · exact filled empty
    cases numeral with
    | infinity signed =>
      have head : ∀ c ∈ "Infinity".toList.head?, c ∉ ['+', '-'] := by
        rintro c ⟨⟩
        decide
      rw [takeSign_append signed head] at noInfinity
      exact noInfinity rfl
    | decimal signed decimal =>
      obtain ⟨d, read, _⟩ := isDecimal_iff.mp decimal
      rw [takeSign_numeral signed decimal, read] at noDecimal
      cases noDecimal
    | radix numeral =>
      rw [readRadix?_eq_some_iff.mpr numeral] at radix
      cases radix

/-! ## Integers -/

theorem readRadix?_of_digits (signed : IsSign sign negative)
    (spelled : Spells IsScriptDigit 10 ds n) : readRadix? (sign ++ ds) = none := by
  rw [Option.eq_none_iff_forall_ne_some]
  intro m read
  have numeral := readRadix?_eq_some_iff.mp read
  generalize eq : sign ++ ds = t at numeral
  cases numeral with
  | @mk letter _ _ _ mem =>
    cases signed with
    | plus => cases eq
    | minus => cases eq
    | none =>
      obtain rfl : ds = _ := eq
      -- the letter of a radix is no digit
      have letters : ∀ entry ∈ radixLetters, isDigit entry.1 = false := by decide
      have digit := isDigit_of_spells spelled letter (by simp)
      rw [letters _ mem] at digit
      cases digit

theorem readDecimal?_of_digits (filled : ds ≠ []) (spelled : Spells IsScriptDigit 10 ds n) :
    readDecimal? ds = some ⟨ds, none, none⟩ := by
  have read := @readDecimal?_of_head ds [] (isDigit_of_spells spelled) nofun
  rwa [List.append_nil, if_neg (by simpa using filled)] at read

theorem toNumber_of_digits (trimmed : trim text = sign ++ ds) (signed : IsSign sign negative)
    (filled : ds ≠ []) (spelled : Spells IsScriptDigit 10 ds n) (small : n < Binary.overflow) :
    toNumber text = .int (Binary.signed negative n) := by
  have present : ¬(sign ++ ds).isEmpty = true := by simp [filled]
  have noInfinity : ds ≠ "Infinity".toList := by
    rintro rfl
    exact absurd (isDigit_of_spells spelled 'I' (by decide)) (by decide)
  have value := digitsValue?_eq_some_iff.mpr spelled
  have finite : (DecimalLiteral.value ⟨ds, none, none⟩ negative).isFinite = true := by
    have exact := (Binary.ofDecimal_integer negative n).1 small
    simpa [DecimalLiteral.value, DecimalLiteral.digits, value] using exact
  unfold toNumber
  simp only [trimmed, if_neg present, readRadix?_of_digits signed spelled,
    takeSign_append signed (unsigned_of_isScriptDigit spelled), if_neg noInfinity,
    readDecimal?_of_digits filled spelled, finite, value]
  rfl

theorem toNumber_of_isInteger (h : IsInteger IsScriptDigit (trim text) i)
    (small : i.natAbs < Binary.overflow) : toNumber text = .int i := by
  generalize trimmed : trim text = t at h
  cases h with
  | decimal signed filled spelled =>
    rw [Binary.natAbs_signed] at small
    exact toNumber_of_digits trimmed signed filled spelled small
  | radix numeral =>
    have read := readRadix?_eq_some_iff.mpr numeral
    have present : ¬t.isEmpty = true := by
      cases numeral
      exact Bool.false_ne_true
    unfold toNumber
    simp only [trimmed, if_neg present, read]

/-! ## ASCII -/

theorem ascii_of_isSign (signed : IsSign sign negative) : ∀ c ∈ sign, c.toNat < 0x80 := by
  cases signed with
  | none => exact nofun
  | plus | minus => exact List.all_iff_forall_prop.mp (by decide)

theorem ascii_of_spells {radix : Nat} (h : radix ≤ 16)
    (spelled : Spells (IsDigitOf radix) radix ds n) : ∀ d ∈ ds, d.toNat < 0x80 := by
  intro d mem
  obtain ⟨v, lt, lower⟩ := spelled.exists_digit d mem
  exact toNat_lt_of_toLower (by omega) lower

theorem ascii_of_isExponent {e : Int} (h : IsExponent (IsDigitOf 10) cs e) :
    ∀ c ∈ cs, c.toNat < 0x80 := by
  cases h with
  | none => exact nofun
  | some mem signed _ spelled =>
    have letters : ∀ c ∈ ['e', 'E'], c.toNat < 0x80 := List.all_iff_forall_prop.mp (by decide)
    exact List.forall_mem_cons.mpr ⟨letters _ mem, List.forall_mem_append.mpr
      ⟨ascii_of_isSign signed, ascii_of_spells (by decide) spelled⟩⟩

theorem ascii_of_isDecimal (h : IsDecimal (IsDigitOf 10) cs q) : ∀ c ∈ cs, c.toNat < 0x80 := by
  cases h with
  | whole _ spelled raised =>
    exact List.forall_mem_append.mpr
      ⟨ascii_of_spells (by decide) spelled, ascii_of_isExponent raised⟩
  | pointed _ spelled raised =>
    obtain ⟨front, back⟩ := List.forall_mem_append.mp (ascii_of_spells (by decide) spelled)
    exact List.forall_mem_append.mpr ⟨front, List.forall_mem_cons.mpr ⟨by decide,
      List.forall_mem_append.mpr ⟨back, ascii_of_isExponent raised⟩⟩⟩

theorem ascii_of_isRadixNumeral (h : IsRadixNumeral cs n) : ∀ c ∈ cs, c.toNat < 0x80 := by
  cases h with
  | mk mem _ spelled =>
    have letters : ∀ entry ∈ radixLetters, entry.1.toNat < 0x80 := by decide
    exact List.forall_mem_cons.mpr ⟨by decide, List.forall_mem_cons.mpr ⟨letters _ mem,
      ascii_of_spells (le_sixteen_of_mem mem) spelled⟩⟩

/-- The numerals in digits of ASCII are the numerals in ASCII. -/
theorem isNumeral_ascii_iff : IsNumeral (IsDigitOf 10) cs ↔
    IsNumeral IsScriptDigit cs ∧ ∀ c ∈ cs, c.toNat < 0x80 := by
  constructor
  · intro numeral
    cases numeral with
    | infinity signed =>
      exact ⟨.infinity signed, List.forall_mem_append.mpr
        ⟨ascii_of_isSign signed, List.all_iff_forall_prop.mp (by decide)⟩⟩
    | decimal signed decimal =>
      exact ⟨.decimal signed (decimal.mono fun _ _ _ => IsDigitOf.isScriptDigit),
        List.forall_mem_append.mpr ⟨ascii_of_isSign signed, ascii_of_isDecimal decimal⟩⟩
    | radix numeral => exact ⟨.radix numeral, ascii_of_isRadixNumeral numeral⟩
  · rintro ⟨numeral, ascii⟩
    cases numeral with
    | infinity signed => exact .infinity signed
    | decimal signed decimal =>
      have ascii := (List.forall_mem_append.mp ascii).2
      exact .decimal signed (decimal.mono fun c mem v digit => digit.isDigitOf (ascii c mem))
    | radix numeral => exact .radix numeral

theorem IsInteger.isScriptDigit (h : IsInteger (IsDigitOf 10) cs i) :
    IsInteger IsScriptDigit cs i := by
  cases h with
  | decimal signed filled spelled =>
    exact .decimal signed filled (spelled.mono fun _ _ _ => IsDigitOf.isScriptDigit)
  | radix numeral => exact .radix numeral

/-- A text is a number exactly if it is blank or a numeral in the digits of any script; in ASCII
these are the numerals in the digits of ASCII. Integers below the bound are read as they are. -/
theorem toNumber_iff_numeral (s : String) :
    ((Value.text s).toNumber ≠ .nan ↔
      trim s.toList = [] ∨ IsNumeral IsScriptDigit (trim s.toList)) ∧
    ((Value.text s).toNumber ≠ .nan ∧ (∀ c ∈ trim s.toList, c.toNat < 0x80) ↔
      trim s.toList = [] ∨ IsNumeral (IsDigitOf 10) (trim s.toList)) ∧
    ∀ i, IsInteger (IsDigitOf 10) (trim s.toList) i → i.natAbs < Binary.overflow →
      (Value.text s).toNumber = .int i := by
  have read : (Value.text s).toNumber ≠ .nan ↔
      trim s.toList = [] ∨ IsNumeral IsScriptDigit (trim s.toList) := toNumber_ne_nan_iff
  refine ⟨read, ?_, fun i integer => toNumber_of_isInteger integer.isScriptDigit⟩
  rw [read, isNumeral_ascii_iff]
  constructor
  · rintro ⟨empty | numeral, ascii⟩
    · exact .inl empty
    · exact .inr ⟨numeral, ascii⟩
  · rintro (empty | ⟨numeral, ascii⟩)
    · refine ⟨.inl empty, ?_⟩
      rw [empty]
      exact nofun
    · exact ⟨.inr numeral, ascii⟩

/-- A digit beyond ASCII spells a number all the same; an integer in another radix. -/
theorem toNumber_iff_numeral_of_arabic :
    (Value.text "٣").toNumber ≠ .nan ∧ ¬IsNumeral (IsDigitOf 10) (trim "٣".toList) ∧
      IsInteger (IsDigitOf 10) (trim " 0x1F ".toList) 31 ∧ (31 : Int).natAbs < Binary.overflow ∧
      (Value.text " 0x1F ").toNumber = .int 31 := by
  obtain ⟨read, ascii, _⟩ := toNumber_iff_numeral "٣"
  have digit : IsScriptDigit '٣' 3 := by
    unfold IsScriptDigit
    decide
  have three : IsDecimal IsScriptDigit ['٣'] (3 * 10 ^ (0 : Int)) :=
    .whole (List.cons_ne_nil '٣' []) (Spells.nil.snoc digit) .none
  have spelled : Spells (IsDigitOf 16) 16 ['1', 'F'] 31 :=
    (Spells.nil.snoc (v := 1) ⟨by decide, by decide⟩).snoc (v := 15) ⟨by decide, by decide⟩
  have sixteen : ('x', 16) ∈ radixLetters := by decide
  have thirtyOne : IsInteger (IsDigitOf 10) (trim " 0x1F ".toList) 31 :=
    .radix (.mk sixteen (List.cons_ne_nil '1' ['F']) spelled)
  have small : (31 : Int).natAbs < Binary.overflow := by decide +kernel
  refine ⟨read.mpr (.inr (.decimal .none three)), fun numeral => ?_, thirtyOne, small,
    (toNumber_iff_numeral " 0x1F ").2.2 31 thirtyOne small⟩
  exact absurd ((ascii.mpr (.inr numeral)).2 '٣' (by decide)) (by decide)

end Text

/-! ## Numbers as texts -/

namespace Number

open PageComponent.Text PageComponent.NumberFormat

variable {x : Binary} {i : Int}

theorem toList_toString (i : Int) :
    (toString i).toList = minus (i < 0) ++ Nat.toDigits 10 i.natAbs := by
  rw [Int.toString_eq_repr, Int.repr_eq_if]
  split
  next nonneg =>
    have digits : i.toNat = i.natAbs := by omega
    have sign : minus (i < 0) = [] := if_neg (by simpa using nonneg)
    rw [Nat.toList_repr, digits, sign, List.nil_append]
  next negative =>
    have digits : (-i).toNat = i.natAbs := by omega
    have sign : minus (i < 0) = ['-'] := if_pos (by simpa using negative)
    rw [String.toList_append, Nat.toList_repr, digits, sign]
    rfl

theorem isBlank_of_mem_toString (i : Int) : ∀ c ∈ (toString i).toList, isBlank c = false := by
  intro c mem
  rw [toList_toString, minus, List.mem_append] at mem
  rcases mem with sign | digit
  · split at sign
    · obtain rfl := List.mem_singleton.mp sign
      rfl
    · cases sign
  · exact isBlank_of (by decide) (Nat.isDigit_of_mem_toDigits (by decide) (by decide) digit)

/-- The numeral of an integer that is not too large is read as the integer. -/
theorem toNumber_toString (small : i.natAbs < Binary.overflow) :
    (Value.text (toString i)).toNumber = .int i := by
  have trimmed := trim_eq_self (isBlank_of_mem_toString i)
  have spelled := (spells_toDigits i.natAbs).mono fun _ _ _ => IsDigitOf.isScriptDigit
  rw [Value.toNumber, toNumber_of_digits (trimmed.trans (toList_toString i)) (isSign_minus _)
    Nat.toDigits_ne_nil spelled small, Binary.signed_of_natAbs]

theorem toText_toNumber (small : i.natAbs < 10 ^ 21) :
    ∃ s, (Number.int i).toText = .ok s ∧ (Value.text s).toNumber = .int i := by
  have whole : (Number.int i).toText = .ok (toString i) := if_pos small
  exact ⟨_, whole, toNumber_toString (small.trans_le Binary.ten_pow_le_overflow)⟩

/-- The text of a number lays out the significant digits that its precise text shows, and denotes
the same; the text of an integer below the bound is read as the integer. -/
theorem toText_laidOut :
    (∀ x : Binary, x.isFinite = true → x.isZero = false →
      (∃ ds n, Shows (precise.write x).toList x.isNegative ds n) ∧
        ∀ ds n, Shows (precise.write x).toList x.isNegative ds n →
          Decimal.recover (precise.write x.abs).toList = .ofDigits ds n ∧
          (Decimal.ofDigits ds n).toBinary false = x.abs ∧
          ∃ s body, (Number.float x).toText = .ok s ∧ Shows s.toList x.isNegative ds n ∧
            LaidOut ds n body ∧ s.toList = minus x.isNegative ++ body) ∧
    ∀ i : Int, i.natAbs < 10 ^ 21 →
      ∃ s, (Number.int i).toText = .ok s ∧ (Value.text s).toNumber = .int i := by
  refine ⟨fun x finite nonzero => ?_, fun i => toText_toNumber⟩
  obtain ⟨shown, all⟩ := write_laidOut finite nonzero
  refine ⟨shown, fun ds n shows => ?_⟩
  obtain ⟨recovered, read, shows, body, laid, text⟩ := all ds n shows
  exact ⟨recovered, read, _, body, rfl, shows, laid, text⟩

/-- A number that has an exponent in either notation, and the greatest integer written out. -/
theorem toText_laidOut_of_small :
    let x := Binary.ofDecimal true 15 (-8)
    let i : Int := 10 ^ 21 - 1
    x.isFinite = true ∧ x.isZero = false ∧
      Shows (precise.write x).toList x.isNegative ['1', '5'] (-6) ∧
      (∃ s body, (Number.float x).toText = .ok s ∧ LaidOut ['1', '5'] (-6) body ∧
        s.toList = minus x.isNegative ++ body) ∧
      i.natAbs < 10 ^ 21 ∧
      ∃ s, (Number.int i).toText = .ok s ∧ (Value.text s).toNumber = .int i := by
  intro x i
  have finite : x.isFinite = true := by decide +kernel
  have nonzero : x.isZero = false := by decide +kernel
  have small : i.natAbs < 10 ^ 21 := by decide
  have shows : Shows (precise.write x).toList x.isNegative ['1', '5'] (-6) := by
    have negative : x.isNegative = true := by decide +kernel
    have written : precise.write x = "-1.5e-07" := by decide +kernel
    have digits : Spells (IsDigitOf 10) 10 ['1', '5'] 15 := spells_toDigits 15
    have seven : Spells (IsDigitOf 10) 10 ['0', '7'] 7 :=
      (spells_zeros 1).append (spells_toDigits 7)
    have letter : 'e' ∈ ['e', 'E'] := by decide
    have raised := IsExponent.some letter .minus (List.cons_ne_nil '0' ['7']) seven
    rw [written, negative]
    have filled : ['1'] ++ ['5'] ≠ [] := List.cons_ne_nil '1' ['5']
    exact ⟨significant_toDigits (c := 15) (by decide), .mk .minus (.pointed filled digits raised)⟩
  obtain ⟨_, _, s, body, text, _, laid, eq⟩ :=
    (toText_laidOut.1 x finite nonzero).2 ['1', '5'] (-6) shows
  exact ⟨finite, nonzero, shows, ⟨s, body, text, laid, eq⟩, small, toText_laidOut.2 i small⟩

end Number

end PageComponent
