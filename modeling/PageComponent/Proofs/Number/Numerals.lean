import Mathlib.Data.Bool.AllAny
import PageComponent.Number.Literal
import PageComponent.Proofs.Number.Integers
import PageComponent.Proofs.Text.Digits
import PageComponent.Proofs.Text.Spans

/-!
# Numerals

A decimal denotes a rational number by the places of its digits, its point and its exponent. The
reader takes the decimals in the digits of any script, and keeps the number that each denotes.
-/

namespace PageComponent

/-- The number that a literal denotes before it is rounded. -/
def DecimalLiteral.exact (d : DecimalLiteral) : ℚ :=
  ((Text.digitsValue? d.digits).getD 0 : Nat) *
    10 ^ (d.exponent.getD 0 - (d.fraction.getD []).length)

namespace Text

variable {digit digit' : Char → Nat → Prop} {cs ds fs rest sign : List Char} {c : Char}
  {negative : Bool} {n : Nat} {e : Int} {q q' : ℚ}

/-! ## The grammar -/

/-- A sign or none, and whether it is a minus. -/
inductive IsSign : List Char → Bool → Prop where
  | none : IsSign [] false
  | plus : IsSign ['+'] false
  | minus : IsSign ['-'] true

/-- An exponent; no text is the exponent zero. -/
inductive IsExponent (digit : Char → Nat → Prop) : List Char → Int → Prop where
  | none : IsExponent digit [] 0
  | some {letter : Char} {sign ds : List Char} {negative : Bool} {n : Nat}
      (mem : letter ∈ ['e', 'E']) (signed : IsSign sign negative) (filled : ds ≠ [])
      (spelled : Spells digit 10 ds n) :
      IsExponent digit (letter :: (sign ++ ds)) (Binary.signed negative n)

/-- A decimal without sign, and the number that it denotes. -/
inductive IsDecimal (digit : Char → Nat → Prop) : List Char → ℚ → Prop where
  | whole {ds exponent : List Char} {n : Nat} {e : Int} (filled : ds ≠ [])
      (spelled : Spells digit 10 ds n) (raised : IsExponent digit exponent e) :
      IsDecimal digit (ds ++ exponent) (n * 10 ^ e)
  | pointed {ds fs exponent : List Char} {n : Nat} {e : Int} (filled : ds ++ fs ≠ [])
      (spelled : Spells digit 10 (ds ++ fs) n) (raised : IsExponent digit exponent e) :
      IsDecimal digit (ds ++ '.' :: (fs ++ exponent)) (n * 10 ^ (e - fs.length))

theorem IsExponent.mono (h : IsExponent digit cs e)
    (digits : ∀ c ∈ cs, ∀ v, digit c v → digit' c v) : IsExponent digit' cs e := by
  cases h with
  | none => exact .none
  | some mem signed filled spelled =>
    refine .some mem signed filled (spelled.mono fun d inside => digits d ?_)
    exact List.mem_cons_of_mem _ (List.mem_append_right _ inside)

theorem IsDecimal.mono (h : IsDecimal digit cs q)
    (digits : ∀ c ∈ cs, ∀ v, digit c v → digit' c v) : IsDecimal digit' cs q := by
  cases h with
  | whole filled spelled raised =>
    obtain ⟨front, back⟩ := List.forall_mem_append.mp digits
    exact .whole filled (spelled.mono front) (raised.mono back)
  | @pointed ds fs exponent n e filled spelled raised =>
    obtain ⟨front, back⟩ := List.forall_mem_append.mp digits
    obtain ⟨_, back⟩ := List.forall_mem_cons.mp back
    obtain ⟨middle, back⟩ := List.forall_mem_append.mp back
    refine .pointed filled (spelled.mono ?_) (raised.mono back)
    exact List.forall_mem_append.mpr ⟨front, middle⟩

/-! ## Signs -/

theorem takeSign_append (signed : IsSign sign negative)
    (unsigned : ∀ c ∈ cs.head?, c ∉ ['+', '-']) : takeSign (sign ++ cs) = (negative, cs) := by
  cases signed with
  | plus | minus => rfl
  | none =>
    cases cs with
    | nil => rfl
    | cons c cs =>
      have other := unsigned c rfl
      unfold takeSign
      split
      next eq => cases eq; exact absurd (by decide) other
      next eq => cases eq; exact absurd (by decide) other
      next => rfl

theorem exists_takeSign (cs : List Char) :
    ∃ sign, IsSign sign (takeSign cs).1 ∧ cs = sign ++ (takeSign cs).2 := by
  unfold takeSign
  split
  next => exact ⟨_, .minus, rfl⟩
  next => exact ⟨_, .plus, rfl⟩
  next => exact ⟨_, .none, rfl⟩

theorem unsigned_of_isScriptDigit (spelled : Spells IsScriptDigit 10 ds n) :
    ∀ c ∈ ds.head?, c ∉ ['+', '-'] := by
  intro c head mem
  obtain ⟨v, digit⟩ := spelled.exists_digit c (List.mem_of_mem_head? head)
  have none : ∀ c ∈ ['+', '-'], digitValue? c = none := List.all_iff_forall_prop.mp (by decide)
  rw [IsScriptDigit, none c mem] at digit
  cases digit

/-- A decimal does not start with a sign. -/
theorem head?_of_isDecimal (h : IsDecimal IsScriptDigit cs q) : ∀ c ∈ cs.head?, c ∉ ['+', '-'] := by
  cases h with
  | @whole ds exponent _ _ filled spelled =>
    rw [List.head?_append_of_ne_nil ds filled]
    exact unsigned_of_isScriptDigit spelled
  | @pointed ds fs exponent _ _ _ spelled =>
    cases ds with
    | nil =>
      rintro c ⟨⟩
      decide
    | cons d ds => exact @unsigned_of_isScriptDigit (d :: (ds ++ fs)) _ spelled

theorem takeSign_numeral (signed : IsSign sign negative) (h : IsDecimal IsScriptDigit cs q) :
    takeSign (sign ++ cs) = (negative, cs) :=
  takeSign_append signed (head?_of_isDecimal h)

/-! ## Reading -/

theorem readExponent?_cons (mem : c ∈ ['e', 'E']) (signed : IsSign sign negative) (filled : ds ≠ [])
    (unsigned : ∀ c ∈ ds.head?, c ∉ ['+', '-']) : readExponent? (c :: (sign ++ ds)) =
      (digitsValue? ds).map fun n => some (Binary.signed negative n) := by
  have letter : c = 'e' ∨ c = 'E' := by simpa using mem
  have filled : ¬ds.isEmpty = true := by simpa using filled
  rw [readExponent?, if_pos letter, takeSign_append signed unsigned]
  dsimp only
  rw [if_neg filled]
  cases digitsValue? ds <;> rfl

theorem isExponent_iff :
    IsExponent IsScriptDigit cs e ↔ ∃ r, readExponent? cs = some r ∧ r.getD 0 = e := by
  constructor
  · intro raised
    cases raised with
    | none => exact ⟨none, rfl, rfl⟩
    | @some letter sign ds negative n mem signed filled spelled =>
      refine ⟨some (Binary.signed negative n), ?_, rfl⟩
      rw [readExponent?_cons mem signed filled (unsigned_of_isScriptDigit spelled),
        digitsValue?_eq_some_iff.mpr spelled, Option.map_some]
  · rintro ⟨r, read, rfl⟩
    cases cs with
    | nil =>
      obtain rfl := Option.some.inj read
      exact .none
    | cons c cs =>
      rw [readExponent?] at read
      split at read
      next letter =>
        obtain ⟨sign, signed, eq⟩ := exists_takeSign cs
        cases taken : takeSign cs with
        | mk negative ds =>
          rw [taken] at read signed eq
          dsimp only at read signed eq
          split at read
          next => cases read
          next filled =>
            cases value : digitsValue? ds with
            | none => rw [value] at read; cases read
            | some n =>
              rw [value] at read
              obtain rfl := Option.some.inj read
              rw [eq]
              exact .some (by simpa using letter) signed (by simpa using filled)
                (digitsValue?_eq_some_iff.mp value)
      next => cases read

/-- An exponent starts with neither a digit nor a point. -/
theorem IsExponent.head (h : IsExponent digit cs e) :
    ∀ c ∈ cs.head?, isDigit c = false ∧ c ≠ '.' := by
  cases h with
  | none => exact nofun
  | some mem =>
    rintro c ⟨⟩
    have letters : ∀ c ∈ ['e', 'E'], isDigit c = false ∧ c ≠ '.' :=
      List.all_iff_forall_prop.mp (by decide)
    exact letters _ mem

theorem readDecimal?_of_head (digits : ∀ d ∈ ds, isDigit d = true)
    (stop : ∀ c ∈ rest.head?, isDigit c = false ∧ c ≠ '.') : readDecimal? (ds ++ rest) =
      if ds.isEmpty then none else (readExponent? rest).map (⟨ds, none, ·⟩) := by
  have stop' : ∀ c ∈ rest.head?, isDigit c = false := fun c head => (stop c head).1
  unfold readDecimal?
  rw [takeWhile_append_of_head digits stop', dropWhile_append_of_head digits stop']
  split
  next rest => exact absurd rfl (stop '.' rfl).2
  next => rfl

theorem readDecimal?_of_point (digits : ∀ d ∈ ds, isDigit d = true)
    (digits' : ∀ d ∈ fs, isDigit d = true) (stop : ∀ c ∈ rest.head?, isDigit c = false) :
    readDecimal? (ds ++ '.' :: (fs ++ rest)) =
      if ds.isEmpty ∧ fs.isEmpty then none else (readExponent? rest).map (⟨ds, some fs, ·⟩) := by
  have point : ∀ c ∈ ('.' :: (fs ++ rest)).head?, isDigit c = false := by
    rintro c ⟨⟩
    exact isDigit_point
  unfold readDecimal?
  simp only [takeWhile_append_of_head digits point, dropWhile_append_of_head digits point,
    takeWhile_append_of_head digits' stop, dropWhile_append_of_head digits' stop]

theorem isDigit_of_spells (spelled : Spells IsScriptDigit 10 ds n) :
    ∀ d ∈ ds, isDigit d = true := by
  intro d mem
  obtain ⟨v, digit⟩ := spelled.exists_digit d mem
  exact digit.isDigit

theorem exists_spells (digits : ∀ d ∈ ds, isDigit d = true) :
    ∃ n, Spells IsScriptDigit 10 ds n := by
  induction ds using List.reverseRecOn with
  | nil => exact ⟨0, .nil⟩
  | append_singleton ds d ih =>
    obtain ⟨front, back⟩ := List.forall_mem_append.mp digits
    obtain ⟨n, spelled⟩ := ih front
    obtain ⟨v, value⟩ := Option.isSome_iff_exists.mp (back d List.mem_cons_self)
    exact ⟨_, spelled.snoc value⟩

theorem exact_eq {d : DecimalLiteral} (spelled : Spells IsScriptDigit 10 d.digits n) :
    d.exact = n * 10 ^ (d.exponent.getD 0 - (d.fraction.getD []).length) := by
  rw [DecimalLiteral.exact, digitsValue?_eq_some_iff.mpr spelled, Option.getD_some]

theorem exact_of_whole {r : Option Int} (spelled : Spells IsScriptDigit 10 ds n) :
    (⟨ds, none, r⟩ : DecimalLiteral).exact = n * 10 ^ r.getD 0 := by
  have digits : (⟨ds, none, r⟩ : DecimalLiteral).digits = ds := List.append_nil ds
  rw [exact_eq (digits.symm ▸ spelled), Option.getD_none, List.length_nil, Nat.cast_zero,
    Int.sub_zero]

/-- The reader takes the decimals in the digits of any script. -/
theorem isDecimal_iff :
    IsDecimal IsScriptDigit cs q ↔ ∃ d, readDecimal? cs = some d ∧ d.exact = q := by
  constructor
  · intro decimal
    cases decimal with
    | @whole ds exponent n e filled spelled raised =>
      obtain ⟨r, read, rfl⟩ := isExponent_iff.mp raised
      refine ⟨⟨ds, none, r⟩, ?_, exact_of_whole spelled⟩
      rw [readDecimal?_of_head (isDigit_of_spells spelled) raised.head,
        if_neg (by simpa using filled), read, Option.map_some]
    | @pointed ds fs exponent n e filled spelled raised =>
      obtain ⟨r, read, rfl⟩ := isExponent_iff.mp raised
      obtain ⟨front, back⟩ := List.forall_mem_append.mp (isDigit_of_spells spelled)
      refine ⟨⟨ds, some fs, r⟩, ?_, exact_eq spelled⟩
      rw [readDecimal?_of_point front back fun c head => (raised.head c head).1,
        if_neg (by simpa using filled), read, Option.map_some]
  · rintro ⟨d, read, rfl⟩
    have cut := List.takeWhile_append_dropWhile (p := isDigit) (l := cs)
    have front : ∀ d ∈ cs.takeWhile isDigit, isDigit d = true := fun d => List.mem_takeWhile_imp
    unfold readDecimal? at read
    dsimp only at read
    split at read
    next rest point =>
      have cut' := List.takeWhile_append_dropWhile (p := isDigit) (l := rest)
      have back : ∀ d ∈ rest.takeWhile isDigit, isDigit d = true :=
        fun d => List.mem_takeWhile_imp
      obtain ⟨n, spelled⟩ := exists_spells (List.forall_mem_append.mpr ⟨front, back⟩)
      split at read
      next => cases read
      next filled =>
        obtain ⟨r, raised, rfl⟩ := Option.map_eq_some_iff.mp read
        have decimal := IsDecimal.pointed (by simpa using filled) spelled
          (isExponent_iff.mpr ⟨r, raised, rfl⟩)
        rw [cut', ← point, cut] at decimal
        exact exact_eq (d := ⟨_, some _, r⟩) spelled ▸ decimal
    next =>
      obtain ⟨n, spelled⟩ := exists_spells front
      split at read
      next => cases read
      next filled =>
        obtain ⟨r, raised, rfl⟩ := Option.map_eq_some_iff.mp read
        have decimal := IsDecimal.whole (by simpa using filled) spelled
          (isExponent_iff.mpr ⟨r, raised, rfl⟩)
        rw [cut] at decimal
        exact exact_of_whole spelled ▸ decimal

theorem IsDecimal.unique (h : IsDecimal digit cs q) (h' : IsDecimal digit cs q')
    (digits : ∀ c v, digit c v → IsScriptDigit c v) : q = q' := by
  obtain ⟨d, read, rfl⟩ := isDecimal_iff.mp (h.mono fun c _ => digits c)
  obtain ⟨d', read', rfl⟩ := isDecimal_iff.mp (h'.mono fun c _ => digits c)
  obtain rfl := Option.some.inj (read.symm.trans read')
  rfl

end Text

end PageComponent
