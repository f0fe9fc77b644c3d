import PageComponent.Expr.Equality
import Mathlib.Order.WellFounded

/-!
# Loose equality

Operands of one kind are compared strictly, a number and a text by the number that the text spells.
Other operands are converted first, a boolean to its number and an object to its text. A conversion
does not change the answer, on whichever operand it is made, and there are at most two of them; so
every comparison has exactly one answer, and its operands may change places.
-/

namespace PageComponent

/-! ## Numbers -/

namespace Binary

theorem compare?_eq_swap (x y : Binary) : x.compare? y = (y.compare? x).map Ordering.swap := by
  cases x with
  | nan => cases y <;> rfl
  | infinite s =>
    cases y with
    | nan => rfl
    | infinite t => cases s <;> cases t <;> rfl
    | finite => cases s <;> rfl
  | finite s m e =>
    cases y with
    | nan => rfl
    | infinite t => cases t <;> rfl
    | finite t n f =>
      simp only [compare?, Option.map_some, min_comm f e]
      exact congrArg some Std.OrientedOrd.eq_swap

end Binary

namespace Number

theorem compare?_eq_swap (a b : Number) : a.compare? b = (b.compare? a).map Ordering.swap := by
  cases a with
  | int m =>
    cases b with
    | int n => exact congrArg some Std.OrientedOrd.eq_swap
    | float y => rfl
  | float x =>
    cases b with
    | int n => simp [compare?, Option.map_map, Function.comp_def]
    | float y => exact Binary.compare?_eq_swap x y

theorem equal_comm (a b : Number) : a.equal b = b.equal a := by
  rw [equal, equal, compare?_eq_swap]
  cases b.compare? a with
  | none => rfl
  | some o => cases o <;> rfl

end Number

namespace Located

variable {a b c d : Located} {v w : Value}

/-! ## Conversions -/

/-- What a boolean or an object becomes beside a value of another kind. -/
inductive Becomes : Value → Value → Prop where
  | number (b : Bool) : Becomes (.bool b) (.number (Value.bool b).toNumber)
  | text {v : Value} {s : String} (object : v.kind = .object) (shown : v.toText = .ok s) :
      Becomes v (.text s)

/-- The operands are of different kinds, and neither is nullish. -/
structure Unlike (a b : Located) : Prop where
  kinds : a.value.kind ≠ b.value.kind
  left : a.value.isNullish = false
  right : b.value.isNullish = false

/-- One of two operands is converted. -/
inductive Converts : Located × Located → Located × Located → Prop where
  | left {a b : Located} {v : Value} (unlike : Unlike a b) (becomes : Becomes a.value v) :
      Converts (a, b) (computed v, b)
  | right {a b : Located} {v : Value} (unlike : Unlike a b) (becomes : Becomes b.value v) :
      Converts (a, b) (a, computed v)

/-- The answers that a comparison can come to, with conversions in any order. -/
inductive Compares : Located → Located → Except TooLarge Bool → Prop where
  | alike {a b : Located} (kinds : a.value.kind = b.value.kind) :
      Compares a b (.ok (a.strictEquals b))
  | nullish {a b : Located} (kinds : a.value.kind ≠ b.value.kind)
      (nullish : (a.value.isNullish || b.value.isNullish) = true) :
      Compares a b (.ok (a.value.isNullish && b.value.isNullish))
  | numeralRight {a b : Located} {n : Number} {s : String} (number : a.value = .number n)
      (text : b.value = .text s) : Compares a b (.ok (n.equal b.value.toNumber))
  | numeralLeft {a b : Located} {n : Number} {s : String} (text : a.value = .text s)
      (number : b.value = .number n) : Compares a b (.ok (a.value.toNumber.equal n))
  | converted {a b c d : Located} {r : Except TooLarge Bool} (step : Converts (a, b) (c, d))
      (rest : Compares c d r) : Compares a b r
  | failsLeft {a b : Located} {e : TooLarge} (unlike : Unlike a b)
      (object : a.value.kind = .object) (fails : a.value.toText = .error e) :
      Compares a b (.error e)
  | failsRight {a b : Located} {e : TooLarge} (unlike : Unlike a b)
      (object : b.value.kind = .object) (fails : b.value.toText = .error e) :
      Compares a b (.error e)

theorem Unlike.symm (h : Unlike a b) : Unlike b a :=
  ⟨h.kinds.symm, h.right, h.left⟩

/-- How many conversions an operand can still undergo. -/
def weight (v : Value) : Nat :=
  match v.kind with
  | .boolean | .object => 1
  | _ => 0

theorem Becomes.weight_lt (h : Becomes v w) : weight w < weight v := by
  cases h with
  | number b => exact Nat.one_pos
  | text object shown =>
    rw [weight, weight, object]
    exact Nat.one_pos

theorem Converts.weight_lt {p q : Located × Located} (h : Converts p q) :
    weight q.1.value + weight q.2.value < weight p.1.value + weight p.2.value := by
  cases h with
  | left unlike becomes => exact Nat.add_lt_add_right becomes.weight_lt _
  | right unlike becomes => exact Nat.add_lt_add_left becomes.weight_lt _

/-- Conversions come to an end. -/
theorem wellFounded_converts : WellFounded fun q p => Converts p q :=
  Subrelation.wf Converts.weight_lt
    (measure fun p : Located × Located => weight p.1.value + weight p.2.value).wf

/-! ## Symmetry -/

theorem sameObject_comm (a b : Located) : a.sameObject b = b.sameObject a := by
  unfold sameObject
  by_cases h : a.place = b.place
  · rw [h]
  · have h' : b.place ≠ a.place := fun eq => h eq.symm
    rw [beq_eq_false_iff_ne.mpr h, beq_eq_false_iff_ne.mpr h', Bool.and_false, Bool.and_false]

theorem strictEquals_comm (a b : Located) : a.strictEquals b = b.strictEquals a := by
  unfold strictEquals
  cases a.value with
  | null => cases b.value <;> rfl
  | undefined => cases b.value <;> rfl
  | bool x =>
    cases b.value with
    | bool y => exact Bool.beq_comm
    | _ => rfl
  | number x =>
    cases b.value with
    | number y => exact Number.equal_comm x y
    | _ => rfl
  | text x =>
    cases b.value with
    | text y => exact BEq.comm
    | _ => rfl
  | list xs =>
    cases b.value with
    | list | mapping => exact sameObject_comm a b
    | _ => rfl
  | mapping xs =>
    cases b.value with
    | list | mapping => exact sameObject_comm a b
    | _ => rfl

theorem equalsPrimitive_comm (v w : Value) : equalsPrimitive v w = equalsPrimitive w v := by
  cases v with
  | number x =>
    cases w with
    | number y => exact Number.equal_comm x y
    | text y => exact Number.equal_comm x _
    | _ => rfl
  | text x =>
    cases w with
    | number y => exact Number.equal_comm _ y
    | text y => exact BEq.comm
    | _ => rfl
  | _ => cases w <;> rfl

/-- Two conversions that may fail, in either order. There is only one failure. -/
theorem bind_comm {α β : Type} (x y : Except TooLarge α) (f : α → α → β) :
    (do return f (← x) (← y)) = (do return (fun b a => f a b) (← y) (← x)) := by
  cases x with
  | error e => cases y <;> rfl
  | ok a => cases y <;> rfl

theorem looseEquals_comm (a b : Located) : a.looseEquals b = b.looseEquals a := by
  unfold looseEquals
  by_cases kinds : a.value.kind = b.value.kind
  · rw [if_pos kinds, if_pos kinds.symm, strictEquals_comm]
  · have kinds' : b.value.kind ≠ a.value.kind := fun eq => kinds eq.symm
    rw [if_neg kinds, if_neg kinds', Bool.or_comm, Bool.and_comm]
    by_cases nullish : (b.value.isNullish || a.value.isNullish) = true
    · rw [if_pos nullish, if_pos nullish]
    · rw [if_neg nullish, if_neg nullish, bind_comm]
      simp only [equalsPrimitive_comm]

/-! ## Answers -/

/-- Numbers and texts are not converted, and are compared strictly with their like. -/
theorem toPrimitive_of_kind (h : v.kind = .number ∨ v.kind = .text) : toPrimitive v = .ok v := by
  cases v with
  | number | text => rfl
  | _ => rcases h with h | h <;> cases h

theorem strictEquals_of_kind (kinds : a.value.kind = b.value.kind)
    (plain : b.value.kind = .number ∨ b.value.kind = .text) :
    a.strictEquals b = equalsPrimitive a.value b.value := by
  unfold strictEquals
  cases hw : b.value with
  | number y =>
    rw [hw] at kinds
    cases hv : a.value with
    | number x => rfl
    | _ => rw [hv] at kinds; cases kinds
  | text y =>
    rw [hw] at kinds
    cases hv : a.value with
    | text x => rfl
    | _ => rw [hv] at kinds; cases kinds
  | _ => rw [hw] at plain; rcases plain with h | h <;> cases h

theorem looseEquals_primitive (left : a.value.isNullish = false) (right : b.value.isNullish = false)
    (plain : a.value.kind = b.value.kind → b.value.kind = .number ∨ b.value.kind = .text) :
    a.looseEquals b = do
      return equalsPrimitive (← toPrimitive a.value) (← toPrimitive b.value) := by
  unfold looseEquals
  split
  next kinds =>
    have plain := plain kinds
    rw [toPrimitive_of_kind plain, toPrimitive_of_kind (kinds ▸ plain),
      strictEquals_of_kind kinds plain]
    rfl
  next =>
    rw [left, right]
    rfl

theorem Unlike.looseEquals_eq (h : Unlike a b) : a.looseEquals b = do
    return equalsPrimitive (← toPrimitive a.value) (← toPrimitive b.value) :=
  looseEquals_primitive h.left h.right fun kinds => absurd kinds h.kinds

theorem looseEquals_of_nullish (kinds : a.value.kind ≠ b.value.kind)
    (nullish : (a.value.isNullish || b.value.isNullish) = true) :
    a.looseEquals b = .ok (a.value.isNullish && b.value.isNullish) := by
  unfold looseEquals
  rw [if_neg kinds, if_pos nullish]
  rfl

theorem toPrimitive_of_object (object : v.kind = .object) :
    toPrimitive v = v.toText >>= fun s => .ok (.text s) := by
  cases v with
  | list | mapping => rfl
  | _ => cases object

theorem Becomes.spec (h : Becomes v w) :
    toPrimitive v = .ok w ∧ (w.kind = .number ∨ w.kind = .text) := by
  cases h with
  | number b => exact ⟨rfl, .inl rfl⟩
  | text object shown =>
    rw [toPrimitive_of_object object, shown]
    exact ⟨rfl, .inr rfl⟩

theorem Becomes.isNullish (h : Becomes v w) : w.isNullish = false := by
  cases h <;> rfl

/-- A conversion does not change the answer. -/
theorem Converts.looseEquals_eq (h : Converts (a, b) (c, d)) :
    c.looseEquals d = a.looseEquals b := by
  have left {a b : Located} {v : Value} (unlike : Unlike a b) (becomes : Becomes a.value v) :
      (computed v).looseEquals b = a.looseEquals b := by
    obtain ⟨converted, plain⟩ := becomes.spec
    rw [unlike.looseEquals_eq, converted,
      looseEquals_primitive becomes.isNullish unlike.right fun kinds => kinds ▸ plain]
    rw [computed, toPrimitive_of_kind plain]
  cases h with
  | left unlike becomes => exact left unlike becomes
  | right unlike becomes =>
    rw [looseEquals_comm, looseEquals_comm a b]
    exact left unlike.symm becomes

theorem Unlike.looseEquals_fails {e : TooLarge} (h : Unlike a b) (object : a.value.kind = .object)
    (fails : a.value.toText = .error e) : a.looseEquals b = .error e := by
  rw [h.looseEquals_eq, toPrimitive_of_object object, fails]
  rfl

theorem looseEquals_numeral {n : Number} {s : String} (number : a.value = .number n)
    (text : b.value = .text s) : a.looseEquals b = .ok (n.equal b.value.toNumber) := by
  have unlike : Unlike a b := by
    constructor
    · rw [number, text]
      exact nofun
    · rw [number]
      rfl
    · rw [text]
      rfl
  rw [unlike.looseEquals_eq, number, text]
  rfl

/-- A comparison comes to no other answer. -/
theorem Compares.eq {r : Except TooLarge Bool} (h : Compares a b r) : a.looseEquals b = r := by
  induction h with
  | alike kinds => exact if_pos kinds
  | nullish kinds nullish => exact looseEquals_of_nullish kinds nullish
  | numeralRight number text => exact looseEquals_numeral number text
  | numeralLeft text number =>
    rw [looseEquals_comm, looseEquals_numeral number text, Number.equal_comm]
  | converted step rest ih => rw [← step.looseEquals_eq, ih]
  | failsLeft unlike object fails => exact unlike.looseEquals_fails object fails
  | failsRight unlike object fails =>
    rw [looseEquals_comm]
    exact unlike.symm.looseEquals_fails object fails

/-- An operand can be converted, unless its text is that of a number too large. -/
theorem exists_becomes (object : weight v = 1) :
    (∃ w, Becomes v w) ∨ ∃ e, v.kind = .object ∧ v.toText = .error e := by
  have shown (object : v.kind = .object) :
      (∃ w, Becomes v w) ∨ ∃ e, v.kind = .object ∧ v.toText = .error e := by
    cases text : v.toText with
    | ok s => exact .inl ⟨_, .text object text⟩
    | error e => exact .inr ⟨e, object, rfl⟩
  cases v with
  | bool b => exact .inl ⟨_, .number b⟩
  | list | mapping => exact shown rfl
  | _ => cases object

theorem number_or_text (present : v.isNullish = false) (settled : weight v ≠ 1) :
    (∃ n, v = .number n) ∨ ∃ s, v = .text s := by
  cases v with
  | null | undefined => cases present
  | number n => exact .inl ⟨n, rfl⟩
  | text s => exact .inr ⟨s, rfl⟩
  | bool | list | mapping => exact absurd rfl settled

/-- Every comparison comes to an answer, by induction on the conversions that are possible. -/
theorem compares_looseEquals (p : Located × Located) :
    Compares p.1 p.2 (p.1.looseEquals p.2) := by
  induction p using wellFounded_converts.induction with
  | _ p ih =>
    obtain ⟨a, b⟩ := p
    have converted {c d : Located} (step : Converts (a, b) (c, d)) :
        Compares a b (a.looseEquals b) :=
      .converted step (step.looseEquals_eq ▸ ih (c, d) step)
    by_cases kinds : a.value.kind = b.value.kind
    · exact (Compares.alike kinds).eq ▸ .alike kinds
    by_cases nullish : (a.value.isNullish || b.value.isNullish) = true
    · exact (Compares.nullish kinds nullish).eq ▸ .nullish kinds nullish
    rw [Bool.not_eq_true, Bool.or_eq_false_iff] at nullish
    have unlike : Unlike a b := ⟨kinds, nullish.1, nullish.2⟩
    by_cases left : weight a.value = 1
    · obtain ⟨v, becomes⟩ | ⟨e, object, fails⟩ := exists_becomes left
      · exact converted (.left unlike becomes)
      · exact (Compares.failsLeft unlike object fails).eq ▸ .failsLeft unlike object fails
    by_cases right : weight b.value = 1
    · obtain ⟨v, becomes⟩ | ⟨e, object, fails⟩ := exists_becomes right
      · exact converted (.right unlike becomes)
      · exact (Compares.failsRight unlike object fails).eq ▸ .failsRight unlike object fails
    rcases number_or_text nullish.1 left with ⟨n, number⟩ | ⟨s, text⟩
    · rcases number_or_text nullish.2 right with ⟨m, number'⟩ | ⟨t, text⟩
      · exact absurd (by rw [number, number']; rfl) kinds
      · exact (Compares.numeralRight number text).eq ▸ .numeralRight number text
    · rcases number_or_text nullish.2 right with ⟨m, number⟩ | ⟨t, text'⟩
      · exact (Compares.numeralLeft text number).eq ▸ .numeralLeft text number
      · exact absurd (by rw [text, text']; rfl) kinds

theorem compares_iff {r : Except TooLarge Bool} : Compares a b r ↔ a.looseEquals b = r :=
  ⟨Compares.eq, fun eq => eq ▸ compares_looseEquals (a, b)⟩

/-! ## Kinds of operands -/

theorem eq_of_kind (kinds : v.kind = w.kind) (nullish : v.isNullish = true) : w = v := by
  cases v with
  | null =>
    cases w with
    | null => rfl
    | _ => cases kinds
  | undefined =>
    cases w with
    | undefined => rfl
    | _ => cases kinds
  | _ => cases nullish

theorem looseEquals_of_isNullish (nullish : a.value.isNullish = true) :
    a.looseEquals b = .ok b.value.isNullish := by
  by_cases kinds : a.value.kind = b.value.kind
  · rw [looseEquals, if_pos kinds, strictEquals, eq_of_kind kinds nullish]
    cases hv : a.value with
    | null | undefined => rfl
    | _ => rw [hv] at nullish; cases nullish
  · rw [looseEquals_of_nullish kinds (by rw [nullish, Bool.true_or]), nullish, Bool.true_and]

theorem unlike_of_object (object : a.value.kind = .object)
    (plain : b.value.kind ∈ [.boolean, .number, .text]) : Unlike a b where
  kinds eq := by
    rw [← eq, object] at plain
    exact absurd plain (by decide)
  left := by
    cases hv : a.value with
    | list | mapping => rfl
    | _ => rw [hv] at object; cases object
  right := by
    cases hw : b.value with
    | null | undefined =>
      rw [hw] at plain
      exact absurd plain (by decide)
    | _ => rfl

theorem looseEquals_of_object (object : a.value.kind = .object)
    (plain : b.value.kind ∈ [.boolean, .number, .text]) :
    a.looseEquals b = a.value.toText >>= fun s => (computed (.text s)).looseEquals b := by
  have unlike := unlike_of_object object plain
  cases shown : a.value.toText with
  | error e => exact unlike.looseEquals_fails object shown
  | ok s => exact (Converts.left unlike (.text object shown)).looseEquals_eq.symm

theorem looseEquals_of_bool {x : Bool} (boolean : a.value = .bool x)
    (other : b.value.kind ≠ .boolean) :
    a.looseEquals b = (computed (.number a.value.toNumber)).looseEquals b := by
  by_cases nullish : b.value.isNullish = true
  · rw [looseEquals_comm, looseEquals_comm _ b, looseEquals_of_isNullish nullish,
      looseEquals_of_isNullish nullish, boolean]
    rfl
  · have unlike : Unlike a b := ⟨by rw [boolean]; exact other.symm, by rw [boolean]; rfl,
      Bool.not_eq_true _ ▸ nullish⟩
    rw [boolean]
    exact (Converts.left unlike (boolean ▸ .number x)).looseEquals_eq.symm

/-! ## The laws of loose equality -/

/-- Conversions end and come to one answer in whatever order they are made; it is the same with the
operands in the other order, and for each pair of kinds it is the one that the rules name. -/
theorem looseEquals_laws (a b : Located) :
    (Acc (fun q p => Converts p q) (a, b) ∧ ∀ r, Compares a b r ↔ a.looseEquals b = r) ∧
      a.looseEquals b = b.looseEquals a ∧
      (a.value.kind = b.value.kind → a.looseEquals b = .ok (a.strictEquals b)) ∧
      (a.value.isNullish = true → a.looseEquals b = .ok b.value.isNullish) ∧
      (a.value.kind = .object → b.value.kind ∈ [.boolean, .number, .text] →
        a.looseEquals b = a.value.toText >>= fun s => (computed (.text s)).looseEquals b) ∧
      (∀ x, a.value = .bool x → b.value.kind ≠ .boolean →
        a.looseEquals b = (computed (.number a.value.toNumber)).looseEquals b) ∧
      (∀ n s, a.value = .number n → b.value = .text s →
        a.looseEquals b = .ok (n.equal b.value.toNumber)) := by
  refine ⟨⟨wellFounded_converts.apply (a, b), fun r => compares_iff⟩, looseEquals_comm a b,
    fun kinds => (Compares.alike kinds).eq, looseEquals_of_isNullish, looseEquals_of_object,
    fun x => looseEquals_of_bool, ?_⟩
  intro n s number text
  exact looseEquals_numeral number text

/-- A list of one numeral and a truth: the list becomes a text and the truth a number. -/
theorem looseEquals_laws_of_list :
    let a : Located := ⟨.list [.text "0x1"], some ⟨"items", []⟩⟩
    let b : Located := computed (.bool true)
    a.value.kind = .object ∧ b.value.kind ∈ [.boolean, .number, .text] ∧
      a.looseEquals b = (computed (.text "0x1")).looseEquals b ∧
      b.value = .bool true ∧ a.value.kind ≠ .boolean ∧
      a.looseEquals b = a.looseEquals (computed (.number (.int 1))) ∧
      a.looseEquals b = .ok true := by
  intro a b
  have object : a.value.kind = .object := rfl
  have plain : b.value.kind ∈ [.boolean, .number, .text] := by decide
  have other : a.value.kind ≠ .boolean := by decide
  obtain ⟨_, _, _, _, shown, _, _⟩ := looseEquals_laws a b
  obtain ⟨_, comm, _, _, _, counted, _⟩ := looseEquals_laws b a
  refine ⟨object, plain, shown object plain, rfl, other, ?_, ?_⟩
  · rw [← comm, counted true rfl other]
    exact (looseEquals_laws _ a).2.1
  · rw [shown object plain]
    decide +kernel

end Located

end PageComponent
