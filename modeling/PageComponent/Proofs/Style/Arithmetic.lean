import PageComponent.Proofs.Expr.Scanning
import PageComponent.Proofs.Number.Digits
import PageComponent.Proofs.Style.Spacing

/-!
# Arithmetic of groups

A group is evaluated as it is commonly read: products before sums, and both from the left. On
integers of at most fifty-three bits the result is exact, unless a factor behind a product of zero
is too large to be finite; then the group is not a number.
-/

namespace PageComponent.Style

open Binary (HoldsIf signed)

variable {vars : Entries String}

/-! ## The common reading -/

/-- Operands that are multiplied and divided, from the left. -/
inductive Product (vars : Entries String) where
  | one (x : Operand vars)
  | times (p : Product vars) (x : Operand vars)
  | divided (p : Product vars) (x : Operand vars)

/-- Products that are added and subtracted, from the left. -/
inductive Reading (vars : Entries String) where
  | one (p : Product vars)
  | plus (r : Reading vars) (p : Product vars)
  | minus (r : Reading vars) (p : Product vars)

namespace Reading

/-- Goes on with the last product. -/
def onLast (f : Product vars → Product vars) : Reading vars → Reading vars
  | .one p => .one (f p)
  | .plus r p => .plus r (f p)
  | .minus r p => .minus r (f p)

/-- The reading with one more operand, which as a factor belongs to the last product. -/
def extend (r : Reading vars) : Operator → Operand vars → Reading vars
  | .times, x => r.onLast (.times · x)
  | .dividedBy, x => r.onLast (.divided · x)
  | .plus, x => .plus r (.one x)
  | .minus, x => .minus r (.one x)

def extendAll (r : Reading vars) (links : List (Link vars)) : Reading vars :=
  links.foldl (fun r link => r.extend link.operator link.operand) r

theorem extendAll_cons (r : Reading vars) (link : Link vars) (links : List (Link vars)) :
    r.extendAll (link :: links) = (r.extend link.operator link.operand).extendAll links := rfl

end Reading

def Group.reading (g : Group vars) : Reading vars :=
  Reading.extendAll (.one (.one g.first)) g.links

/-! ## Evaluation -/

def Product.evaluate : Product vars → Binary
  | .one x => x.quantity.value
  | .times p x => p.evaluate.mul x.quantity.value
  | .divided p x => p.evaluate.div x.quantity.value

def Reading.evaluate : Reading vars → Binary
  | .one p => p.evaluate
  | .plus r p => r.evaluate.add p.evaluate
  | .minus r p => r.evaluate.sub p.evaluate

namespace Reading

/-- What stands before the last product, and whether the product is subtracted from it. -/
abbrev Before (vars : Entries String) := Option (Reading vars × Bool)

def ending : Before vars → Product vars → Reading vars
  | none, p => .one p
  | some (r, false), p => .plus r p
  | some (r, true), p => .minus r p

def combine : Before vars → Binary → Binary
  | none, y => y
  | some (r, subtracted), y => sum r.evaluate [(subtracted, y)]

theorem evaluate_ending (before : Before vars) (p : Product vars) :
    (ending before p).evaluate = combine before p.evaluate := by
  rcases before with _ | ⟨r, _ | _⟩ <;> rfl

theorem onLast_ending (f : Product vars → Product vars) (before : Before vars) (p : Product vars) :
    (ending before p).onLast f = ending before (f p) := by
  rcases before with _ | ⟨r, _ | _⟩ <;> rfl

/-- The products behind the last one are found from the front, the reading takes them up one by one;
what stands before them is the same for both. -/
theorem evaluate_extendAll {links : List (Link vars)}
    (nonzero : ∀ link ∈ links, link.dividesByZero = false) (before : Before vars)
    (p : Product vars) :
    ∃ y terms, products p.evaluate (links.map Link.pair) = some (y, terms) ∧
      ((ending before p).extendAll links).evaluate = sum (combine before y) terms := by
  induction links generalizing before p with
  | nil => exact ⟨p.evaluate, [], rfl, evaluate_ending before p⟩
  | cons link links ih =>
    obtain ⟨divisor, others⟩ := List.forall_mem_cons.mp nonzero
    rw [extendAll_cons, List.map_cons, Link.pair]
    cases op : link.operator with
    | times =>
      rw [extend, onLast_ending]
      exact ih others before (.times p link.operand)
    | dividedBy =>
      have nonzero : link.operand.quantity.value.isZero = false := by
        simpa [Link.dividesByZero, op] using divisor
      rw [extend, onLast_ending, products, if_neg (by simp [nonzero])]
      exact ih others before (.divided p link.operand)
    | plus =>
      obtain ⟨y, terms, rest, total⟩ :=
        ih others (some (ending before p, false)) (.one link.operand)
      refine ⟨p.evaluate, (false, y) :: terms, ?_, ?_⟩
      · rw [products, ← Product.evaluate, rest]
        rfl
      · refine total.trans ?_
        rw [combine, evaluate_ending]
        rfl
    | minus =>
      obtain ⟨y, terms, rest, total⟩ :=
        ih others (some (ending before p, true)) (.one link.operand)
      refine ⟨p.evaluate, (true, y) :: terms, ?_, ?_⟩
      · rw [products, ← Product.evaluate, rest]
        rfl
      · refine total.trans ?_
        rw [combine, evaluate_ending]
        rfl

end Reading

namespace Group

def operands (g : Group vars) : List (Operand vars) :=
  g.first :: g.links.map Link.operand

/-- The first unit in the order of the operands. -/
def unit (g : Group vars) : List Char :=
  ((g.operands.map fun x => x.value.unit).find? (· ≠ [])).getD []

/-- A group that divides by no zero is folded to what it is commonly read as. -/
theorem result?_eq (g : Group vars) (nonzero : ∀ link ∈ g.links, link.dividesByZero = false) :
    g.result? = some ((NumberFormat.plain.write (g.reading.evaluate.roundToPlaces 8)).toList ++
      g.unit) := by
  obtain ⟨y, terms, found, total⟩ := Reading.evaluate_extendAll nonzero none (.one g.first)
  have units : firstUnit (g.first.quantity :: g.links.map fun link => link.operand.quantity) =
      g.unit := by
    simp only [firstUnit, unit, operands, List.map_cons, List.map_map]
    rfl
  have evaluated : g.reading.evaluate = sum y terms := total
  rw [result?, ← Product.evaluate, found, units, evaluated]
  rfl

end Group

/-! ## Exact values -/

namespace Operand

/-- The integer that the digits of an operand spell. -/
def integer (x : Operand vars) : Int :=
  signed x.value.negative (Nat.ofDigitChars 10 x.value.whole 0)

/-- An integer numeral in digits of ASCII. -/
structure IsInteger (x : Operand vars) : Prop where
  fraction : x.value.fraction = none
  digits : ∀ c ∈ x.value.whole, c.isDigit = true

/-- The operand is not beyond the range of binary numbers. -/
def InRange (x : Operand vars) : Prop :=
  x.integer.natAbs < Binary.overflow

variable {x : Operand vars}

instance : Decidable x.IsInteger :=
  decidable_of_iff (x.value.fraction = none ∧ x.value.whole.all Char.isDigit = true)
    ⟨fun h => ⟨h.1, List.all_eq_true.mp h.2⟩, fun h => ⟨h.1, List.all_eq_true.mpr h.2⟩⟩

instance : Decidable x.InRange :=
  inferInstanceAs (Decidable (_ < _))

theorem IsInteger.value_eq (h : x.IsInteger) : x.quantity.value =
    Binary.ofDecimal x.value.negative (Nat.ofDigitChars 10 x.value.whole 0) 0 := by
  have digits : x.value.literal.digits = x.value.whole := by
    rw [DecimalLiteral.digits, Numeral.literal, h.fraction]
    exact List.append_nil _
  rw [quantity, Numeral.quantity, DecimalLiteral.value, digits,
    Text.digitsValue?_of_isDigit h.digits, Numeral.literal, h.fraction]
  rfl

theorem natAbs_integer (x : Operand vars) :
    x.integer.natAbs = Nat.ofDigitChars 10 x.value.whole 0 :=
  Binary.natAbs_signed _ _

theorem IsInteger.holds (h : x.IsInteger) (small : Binary.Small x.integer) :
    x.quantity.value.Holds x.integer := by
  rw [Binary.Small, natAbs_integer] at small
  rw [h.value_eq]
  exact (Binary.ofDecimal_integer _ _).2.2 small

theorem IsInteger.isFinite (h : x.IsInteger) (inRange : x.InRange) :
    x.quantity.value.isFinite = true := by
  rw [InRange, natAbs_integer] at inRange
  rw [h.value_eq]
  exact (Binary.ofDecimal_integer _ _).1 inRange

theorem IsInteger.infinite (h : x.IsInteger) (beyond : ¬x.InRange) :
    x.quantity.value = .infinite x.value.negative := by
  rw [InRange, natAbs_integer, Nat.not_lt] at beyond
  rw [h.value_eq]
  exact (Binary.ofDecimal_integer _ _).2.1 beyond

end Operand

theorem small_iff {i : Int} : Binary.Small i ↔ |(i : ℚ)| < 2 ^ 53 := by
  rw [Binary.Small, ← Int.cast_abs, ← Nat.cast_natAbs]
  exact_mod_cast Iff.rfl

namespace Product

def value : Product vars → ℚ
  | .one x => x.integer
  | .times p x => p.value * x.integer
  | .divided p x => p.value / x.integer

/-- The product of the first factors has at most fifty-three bits, however many they are. -/
def Bounded : Product vars → Prop
  | .one x => |(x.integer : ℚ)| < 2 ^ 53
  | .times p x => p.Bounded ∧ |p.value * x.integer| < 2 ^ 53
  | .divided p x => p.Bounded ∧ |p.value / x.integer| < 2 ^ 53

def All (P : Operand vars → Prop) : Product vars → Prop
  | .one x => P x
  | .times p x => p.All P ∧ P x
  | .divided p x => p.All P ∧ P x

def Undivided : Product vars → Prop
  | .one _ => True
  | .times p _ => p.Undivided
  | .divided _ _ => False

/-- A product of integers is exact, or a factor behind a product of zero is out of range. -/
theorem evaluate_spec {p : Product vars} (undivided : p.Undivided)
    (integers : p.All Operand.IsInteger) (bounded : p.Bounded) :
    ∃ i : Int, p.value = i ∧ Binary.Small i ∧ HoldsIf (p.All Operand.InRange) p.evaluate i := by
  induction p with
  | one x =>
    have small : Binary.Small x.integer := small_iff.mpr bounded
    have inRange : x.InRange := small.trans Binary.small_lt_overflow
    exact ⟨x.integer, rfl, small, fun _ => integers.holds small,
      fun beyond => absurd inRange beyond⟩
  | times p x ih =>
    obtain ⟨integers, integer⟩ := integers
    obtain ⟨bounded, bound⟩ := bounded
    obtain ⟨i, value, _, first⟩ := ih undivided integers bounded
    have product : p.value * x.integer = (i * x.integer : Int) := by rw [value, Int.cast_mul]
    have small : Binary.Small (i * x.integer) := by
      rw [product] at bound
      exact small_iff.mpr bound
    -- behind a product that is not zero only small factors are left
    have factor : i ≠ 0 → Binary.Small x.integer := fun nonzero => by
      have pos : 1 ≤ i.natAbs := Int.natAbs_pos.mpr nonzero
      rw [Binary.Small, Int.natAbs_mul] at small
      exact (Nat.le_mul_of_pos_left _ pos).trans_lt small
    refine ⟨i * x.integer, product, small, ?_, ?_⟩
    · rintro ⟨inRange, within⟩
      have exact := first.holds inRange
      refine Binary.holds_mul exact.finite (integer.isFinite within) small ?_
      rw [exact.value, Int.cast_mul]
      rcases eq_or_ne i 0 with rfl | nonzero
      · rw [Int.cast_zero, zero_mul, zero_mul]
      · rw [(integer.holds (factor nonzero)).value]
    · intro beyond
      rw [evaluate]
      by_cases inRange : p.All Operand.InRange
      · have outside : ¬x.InRange := fun within => beyond ⟨inRange, within⟩
        obtain rfl : i = 0 := by
          by_contra nonzero
          exact outside ((factor nonzero).trans Binary.small_lt_overflow)
        rw [integer.infinite outside, Binary.mul_infinite_of_zero (first.holds inRange)]
      · rw [first.nan inRange]
        rfl
  | divided => exact undivided.elim

end Product

namespace Reading

def value : Reading vars → ℚ
  | .one p => p.value
  | .plus r p => r.value + p.value
  | .minus r p => r.value - p.value

/-- The products are bounded, and so is the sum of the first ones, however many they are. -/
def Bounded : Reading vars → Prop
  | .one p => p.Bounded
  | .plus r p => r.Bounded ∧ p.Bounded ∧ |r.value + p.value| < 2 ^ 53
  | .minus r p => r.Bounded ∧ p.Bounded ∧ |r.value - p.value| < 2 ^ 53

def All (P : Operand vars → Prop) : Reading vars → Prop
  | .one p => p.All P
  | .plus r p => r.All P ∧ p.All P
  | .minus r p => r.All P ∧ p.All P

def Undivided : Reading vars → Prop
  | .one p => p.Undivided
  | .plus r p => r.Undivided ∧ p.Undivided
  | .minus r p => r.Undivided ∧ p.Undivided

theorem evaluate_spec {r : Reading vars} (undivided : r.Undivided)
    (integers : r.All Operand.IsInteger) (bounded : r.Bounded) :
    ∃ i : Int, r.value = i ∧ Binary.Small i ∧ HoldsIf (r.All Operand.InRange) r.evaluate i := by
  induction r with
  | one p => exact Product.evaluate_spec undivided integers bounded
  | plus r p ih =>
    obtain ⟨bounded, bounded', bound⟩ := bounded
    obtain ⟨i, value, _, sum⟩ := ih undivided.1 integers.1 bounded
    obtain ⟨j, value', _, last⟩ := Product.evaluate_spec undivided.2 integers.2 bounded'
    have total : r.value + p.value = (i + j : Int) := by rw [value, value', Int.cast_add]
    have small : Binary.Small (i + j) := small_iff.mpr (total ▸ bound)
    refine ⟨i + j, total, small, sum.combine last (fun hx hy => ?_) (fun _ => rfl) Binary.add_nan⟩
    exact Binary.holds_add hx.finite hy.finite small (by rw [hx.value, hy.value, Int.cast_add])
  | minus r p ih =>
    obtain ⟨bounded, bounded', bound⟩ := bounded
    obtain ⟨i, value, _, sum⟩ := ih undivided.1 integers.1 bounded
    obtain ⟨j, value', _, last⟩ := Product.evaluate_spec undivided.2 integers.2 bounded'
    have total : r.value - p.value = (i - j : Int) := by rw [value, value', Int.cast_sub]
    have small : Binary.Small (i - j) := small_iff.mpr (total ▸ bound)
    refine ⟨i - j, total, small, sum.combine last (fun hx hy => ?_) (fun _ => rfl) Binary.sub_nan⟩
    exact Binary.holds_sub hx.finite hy.finite small (by rw [hx.value, hy.value, Int.cast_sub])

theorem all_extend {P : Operand vars → Prop} (r : Reading vars) (op : Operator) (x : Operand vars) :
    (r.extend op x).All P ↔ r.All P ∧ P x := by
  cases op with
  | times => cases r <;> simp [extend, onLast, All, Product.All, and_assoc]
  | dividedBy => cases r <;> simp [extend, onLast, All, Product.All, and_assoc]
  | plus => exact Iff.rfl
  | minus => exact Iff.rfl

theorem all_extendAll {P : Operand vars → Prop} {links : List (Link vars)} (r : Reading vars) :
    (r.extendAll links).All P ↔ r.All P ∧ ∀ link ∈ links, P link.operand := by
  induction links generalizing r with
  | nil => simp [extendAll]
  | cons link links ih => rw [extendAll_cons, ih, all_extend, List.forall_mem_cons, and_assoc]

theorem Undivided.extend {r : Reading vars} {op : Operator} (undivided : r.Undivided)
    (other : op ≠ .dividedBy) (x : Operand vars) : (r.extend op x).Undivided := by
  cases op with
  | times => cases r <;> exact undivided
  | dividedBy => exact absurd rfl other
  | plus => exact ⟨undivided, trivial⟩
  | minus => exact ⟨undivided, trivial⟩

theorem Undivided.extendAll {r : Reading vars} {links : List (Link vars)} (undivided : r.Undivided)
    (others : ∀ link ∈ links, link.operator ≠ .dividedBy) : (r.extendAll links).Undivided := by
  induction links generalizing r with
  | nil => exact undivided
  | cons link links ih =>
    obtain ⟨other, others⟩ := List.forall_mem_cons.mp others
    exact ih (undivided.extend other link.operand) others

end Reading

/-! ## Groups of integers -/

theorem nan_ne_toString (i : Int) : "NaN".toList ≠ (toString i).toList := by
  rw [Int.toString_eq_repr, Int.repr_eq_if]
  split
  · rw [Nat.toList_repr]
    intro eq
    have mem : 'N' ∈ Nat.toDigits 10 i.toNat := eq ▸ List.mem_cons_self
    cases Nat.isDigit_of_mem_toDigits (by decide) (by decide) mem
  · rw [String.toList_append]
    intro eq
    cases (List.cons_eq_cons.mp eq).1

namespace Group

theorem all_reading {P : Operand vars → Prop} (g : Group vars) :
    g.reading.All P ↔ ∀ x ∈ g.operands, P x := by
  rw [reading, Reading.all_extendAll, operands, List.forall_mem_cons, List.forall_mem_map]
  exact Iff.rfl

/-- Two or more integers with blanks around the signs between them, and no division. -/
structure OfIntegers (g : Group vars) : Prop where
  long : g.links ≠ []
  integers : ∀ x ∈ g.operands, x.IsInteger
  undashed : ∀ x ∈ g.operands, x.isDashed = false
  spaced : ∀ link ∈ g.links, link.before.val ≠ [] ∧ link.after.val ≠ []
  undivided : ∀ link ∈ g.links, link.operator ≠ .dividedBy

variable {g : Group vars}

theorem OfIntegers.foldGroup?_eq (h : g.OfIntegers) : foldGroup? vars g.text =
    some ((NumberFormat.plain.write (g.reading.evaluate.roundToPlaces 8)).toList ++ g.unit) := by
  have undashed := List.forall_mem_cons.mp h.undashed
  rw [List.forall_mem_map] at undashed
  have plain : g.isPlain = true := by
    rw [isPlain, undashed.1, Bool.not_false, Bool.true_and, List.all_eq_true]
    intro link mem
    have after : link.after.val.isEmpty = false := by simpa using (h.spaced link mem).2
    rw [Link.isPlain, Link.isTight, after, undashed.2 link mem, Bool.and_false, Bool.false_and]
    rfl
  have nonzero : ∀ link ∈ g.links, link.dividesByZero = false := fun link mem => by
    rw [Link.dividesByZero, decide_eq_false (h.undivided link mem), Bool.false_and]
  rw [g.foldGroup?_text h.long (apart_of_spaced fun link mem => (h.spaced link mem).1),
    if_pos plain, g.result?_eq nonzero]

theorem OfIntegers.evaluate_spec (h : g.OfIntegers) (bounded : g.reading.Bounded) :
    ∃ i : Int, g.reading.value = i ∧ Binary.Small i ∧
      HoldsIf (∀ x ∈ g.operands, x.InRange) g.reading.evaluate i := by
  have undivided : g.reading.Undivided :=
    Reading.Undivided.extendAll (r := .one (.one g.first)) trivial h.undivided
  have integers := g.all_reading.mpr h.integers
  rw [← g.all_reading]
  exact Reading.evaluate_spec undivided integers bounded

/-- A group with an infinite factor, whose products before it are zero, is not a number. -/
theorem OfIntegers.foldGroup?_of_beyond (h : g.OfIntegers) (bounded : g.reading.Bounded)
    (beyond : ¬∀ x ∈ g.operands, x.InRange) :
    foldGroup? vars g.text = some ("NaN".toList ++ g.unit) := by
  obtain ⟨_, -, -, evaluated⟩ := h.evaluate_spec bounded
  rw [h.foldGroup?_eq, evaluated.nan beyond]
  rfl

/-- A group of integers whose products and sums have at most fifty-three bits is folded to its
exact value, with the first unit of its operands, exactly if no operand is too large. -/
theorem folds_to_value_iff (g : Group vars) (h : g.OfIntegers) (bounded : g.reading.Bounded) :
    ∃ i : Int, g.reading.value = i ∧
      (foldGroup? vars g.text = some ((toString i).toList ++ g.unit) ↔
        ∀ x ∈ g.operands, x.InRange) := by
  obtain ⟨i, value, small, evaluated⟩ := h.evaluate_spec bounded
  refine ⟨i, value, ?_, fun inRange => ?_⟩
  · intro folded
    by_contra beyond
    rw [h.foldGroup?_of_beyond bounded beyond, Option.some_inj, List.append_left_inj] at folded
    exact nan_ne_toString i folded
  · have exact := (evaluated.holds inRange).roundToPlaces small 8
    rw [h.foldGroup?_eq, NumberFormat.write_plain exact small]

/-- A sum with a product in it, a variable and two units. -/
theorem folds_to_value_of_units :
    foldGroup? [("a", "-3px")] "10 - 2 * @a + 1em".toList = some "17px".toList := by
  let ten := Numeral.ofDigits false ['1', '0'] [] (by decide) rfl rfl
  let two := Numeral.ofDigits false ['2'] [] (by decide) rfl rfl
  let three := Numeral.ofDigits true ['3'] ['p', 'x'] (by decide) rfl rfl
  let one := Numeral.ofDigits false ['1'] ['e', 'm'] (by decide) rfl rfl
  let a : Operand [("a", "-3px")] :=
    .named ⟨false, 'a', [], by decide, List.forall_mem_nil _⟩ three false (by decide)
  let g : Group [("a", "-3px")] := ⟨Gap.empty, .numeral ten,
    [⟨Gap.blank, .minus, Gap.blank, .numeral two⟩, ⟨Gap.blank, .times, Gap.blank, a⟩,
      ⟨Gap.blank, .plus, Gap.blank, .numeral one⟩], Gap.empty⟩
  have integers : g.OfIntegers := ⟨by decide, by decide, by decide, by decide, by decide⟩
  have ten_eq : (Operand.numeral ten : Operand [("a", "-3px")]).integer = 10 := rfl
  have two_eq : (Operand.numeral two : Operand [("a", "-3px")]).integer = 2 := rfl
  have a_eq : a.integer = -3 := rfl
  have one_eq : (Operand.numeral one : Operand [("a", "-3px")]).integer = 1 := rfl
  have reading : g.reading = .plus (.minus (.one (.one (.numeral ten)))
    (.times (.one (.numeral two)) a)) (.one (.numeral one)) := rfl
  have bounded : g.reading.Bounded := by
    simp only [reading, Reading.Bounded, Product.Bounded, Reading.value, Product.value, ten_eq,
      two_eq, a_eq, one_eq]
    norm_num
  obtain ⟨i, value, folds⟩ := g.folds_to_value_iff integers bounded
  obtain rfl : i = 17 := by
    simp only [reading, Reading.value, Product.value, ten_eq, two_eq, a_eq, one_eq] at value
    norm_num at value
    exact_mod_cast value.symm
  exact folds.mpr (by decide +kernel)

/-- Zero times a number beyond the range of binary numbers is not zero. -/
theorem folds_to_nan_of_zero_product :
    ∃ g : Group [], g.text = "0 * 1".toList ++ List.replicate 309 '0' ∧ g.OfIntegers ∧
      g.reading.Bounded ∧ g.reading.value = 0 ∧ g.unit = [] ∧
      foldGroup? [] g.text = some "NaN".toList := by
  let zero := Numeral.ofDigits false ['0'] [] (by decide) rfl rfl
  let huge := Numeral.ofDigits false ('1' :: List.replicate 309 '0') [] (by decide)
    (by decide +kernel) rfl
  let g : Group [] := ⟨Gap.empty, .numeral zero,
    [⟨Gap.blank, .times, Gap.blank, .numeral huge⟩], Gap.empty⟩
  have integers : g.OfIntegers :=
    ⟨by decide, by decide +kernel, by decide, by decide, by decide⟩
  have zero_eq : (Operand.numeral zero : Operand []).integer = 0 := rfl
  have reading : g.reading = .one (.times (.one (.numeral zero)) (.numeral huge)) := rfl
  have bounded : g.reading.Bounded := by
    simp [reading, Reading.Bounded, Product.Bounded, Product.value, zero_eq]
  refine ⟨g, by decide +kernel, integers, bounded, ?_, rfl, ?_⟩
  · simp [reading, Reading.value, Product.value, zero_eq]
  · exact integers.foldGroup?_of_beyond bounded (by decide +kernel)

end Group

end PageComponent.Style
