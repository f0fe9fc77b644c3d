import PageComponent.Proofs.Text.Characters
import PageComponent.Proofs.Text.Spans
import PageComponent.Style.Fold

/-!
# Written groups

A group is written as numerals and names of variables, with operators between them and blanks
around these. It is read one token after another; the only operator that may be lost is a minus
sign right before a numeral, which then belongs to the numeral.
-/

namespace PageComponent.Style

open Quantity
open GroupToken (isNameStart isNamePart)

variable {vars : Entries String} {cs rest : List Char} {c : Char}

/-! ## Characters -/

theorem not_digit_of_isUnitPart (h : isUnitPart c = true) : Text.isDigit c = false ∧ c ≠ '.' := by
  have ascii : ∀ n < 128, isUnitPart (.ofNat n) = true →
      Text.isDigit (.ofNat n) = false ∧ Char.ofNat n ≠ '.' := by decide
  have small : c.toNat < 128 := by
    rcases Bool.or_eq_true_iff.mp h with letter | percent
    · exact Text.toNat_lt_of_isAlpha letter
    · rw [beq_iff_eq.mp percent]
      decide
  rw [← Char.ofNat_toNat c] at h ⊢
  exact ascii c.toNat small h

theorem isNamePart_of_isNameStart (h : isNameStart c = true) : isNamePart c = true := by
  have ascii : ∀ n < 128, isNameStart (.ofNat n) = true → isNamePart (.ofNat n) = true := by
    decide
  have small : c.toNat < 128 := by
    rcases Bool.or_eq_true_iff.mp h with letter | line
    · exact Text.toNat_lt_of_isAlpha letter
    · rw [beq_iff_eq.mp line]
      decide
  rw [← Char.ofNat_toNat c] at h ⊢
  exact ascii c.toNat small h

/-- Characters that go on with a numeral or its unit. -/
def isNumeralPart (c : Char) : Bool :=
  Text.isDigit c || c == '.' || isUnitPart c

theorem isNumeralPart_eq_false_iff :
    isNumeralPart c = false ↔ (Text.isDigit c = false ∧ c ≠ '.') ∧ isUnitPart c = false := by
  simp [isNumeralPart]

/-! ## Numerals -/

/-- A number and its unit, as they are written. -/
structure Numeral where
  negative : Bool
  whole : List Char
  fraction : Option (List Char)
  unit : List Char
  whole_digits : ∀ c ∈ whole, Text.isDigit c = true
  fraction_digits : ∀ ds ∈ fraction, ds ≠ [] ∧ ∀ c ∈ ds, Text.isDigit c = true
  filled : whole ≠ [] ∨ fraction.isSome = true
  unit_parts : ∀ c ∈ unit, isUnitPart c = true

namespace Numeral

/-- A numeral without a fraction. -/
def ofDigits (negative : Bool) (digits unit : List Char) (filled : digits ≠ [])
    (all : digits.all Text.isDigit = true) (parts : unit.all isUnitPart = true) : Numeral where
  negative := negative
  whole := digits
  fraction := none
  unit := unit
  whole_digits := List.all_eq_true.mp all
  fraction_digits := by simp
  filled := .inl filled
  unit_parts := List.all_eq_true.mp parts

def literal (n : Numeral) : DecimalLiteral :=
  ⟨n.whole, n.fraction, none⟩

def quantity (n : Numeral) : Quantity :=
  ⟨n.literal.value n.negative, n.unit⟩

/-- The digits behind the point, with the point. -/
def pointed (n : Numeral) : List Char :=
  match n.fraction with
  | some ds => '.' :: ds
  | none => []

def unsigned (n : Numeral) : List Char :=
  n.whole ++ (n.pointed ++ n.unit)

def text (n : Numeral) : List Char :=
  (if n.negative then ['-'] else []) ++ n.unsigned

variable {n : Numeral}

theorem numeral?_digits (stop : ∀ c ∈ rest.head?, Text.isDigit c = false ∧ c ≠ '.') :
    numeral? (n.whole ++ (n.pointed ++ rest)) = some n.literal := by
  have digits_end : ∀ c ∈ rest.head?, Text.isDigit c = false := fun c head => (stop c head).1
  unfold numeral?
  dsimp only
  cases fraction : n.fraction with
  | some ds =>
    obtain ⟨ne, digits⟩ := n.fraction_digits ds fraction
    have pointed : n.pointed ++ rest = '.' :: (ds ++ rest) := by
      rw [Numeral.pointed, fraction, List.cons_append]
    have point_end : ∀ c ∈ ('.' :: (ds ++ rest)).head?, Text.isDigit c = false := by
      rintro _ ⟨⟩
      decide
    rw [pointed, Text.dropWhile_append_of_head n.whole_digits point_end,
      Text.takeWhile_append_of_head n.whole_digits point_end]
    change (if (ds ++ rest).takeWhile Text.isDigit ≠ [] then
      some (DecimalLiteral.mk n.whole (some ((ds ++ rest).takeWhile Text.isDigit)) none)
      else _) = _
    rw [Text.takeWhile_append_of_head digits digits_end, if_pos ne, literal, fraction]
  | none =>
    have pointed : n.pointed ++ rest = rest := by
      rw [Numeral.pointed, fraction, List.nil_append]
    have ne : n.whole ≠ [] := n.filled.resolve_right (by simp [fraction])
    rw [pointed, Text.dropWhile_append_of_head n.whole_digits digits_end,
      Text.takeWhile_append_of_head n.whole_digits digits_end, literal, fraction]
    split
    next point => exact absurd rfl (stop '.' rfl).2
    next => rw [if_neg (not_not_intro rfl), if_pos ne]

theorem length_digits (n : Numeral) :
    numeralLength n.literal = (n.whole ++ n.pointed).length := by
  rw [List.length_append, numeralLength, literal, pointed]
  cases n.fraction <;> rfl

theorem exists_unsigned_eq (n : Numeral) (rest : List Char) :
    ∃ c cs, n.unsigned ++ rest = c :: cs ∧ (Text.isDigit c = true ∨ c = '.') := by
  cases whole : n.whole with
  | cons c ds =>
    refine ⟨c, ds ++ (n.pointed ++ n.unit) ++ rest, by simp [unsigned, whole], .inl ?_⟩
    exact n.whole_digits c (by simp [whole])
  | nil =>
    obtain ⟨ds, fraction⟩ := Option.isSome_iff_exists.mp (n.filled.resolve_left (by simp [whole]))
    exact ⟨'.', ds ++ n.unit ++ rest, by simp [unsigned, whole, pointed, fraction], .inr rfl⟩

theorem head?_unsigned_ne (n : Numeral) (rest : List Char) :
    (n.unsigned ++ rest).head? ≠ some '-' := by
  obtain ⟨c, cs, eq, first⟩ := n.exists_unsigned_eq rest
  rw [eq, List.head?_cons]
  rintro ⟨⟩
  revert first
  decide

theorem read?_signed (negative : Bool) (unlike : negative = false → cs.head? ≠ some '-') :
    Quantity.read? ((if negative then ['-'] else []) ++ cs) = (numeral? cs).map fun d =>
      (⟨d.value negative, (cs.drop (numeralLength d)).takeWhile isUnitPart⟩,
        (cs.drop (numeralLength d)).dropWhile isUnitPart) := by
  cases negative with
  | true => simp [Quantity.read?, Option.map_eq_bind]
  | false => simp [Quantity.read?, Option.map_eq_bind, unlike rfl]

/-- A numeral is read up to where none of its parts follows. -/
theorem read?_text (stop : ∀ c ∈ rest.head?, isNumeralPart c = false) :
    Quantity.read? (n.text ++ rest) = some (n.quantity, rest) := by
  have inner : ∀ c ∈ (n.unit ++ rest).head?, Text.isDigit c = false ∧ c ≠ '.' := by
    cases unit : n.unit with
    | nil => exact fun c head => (isNumeralPart_eq_false_iff.mp (stop c head)).1
    | cons c cs =>
      rintro _ ⟨⟩
      exact not_digit_of_isUnitPart (n.unit_parts c (by simp [unit]))
  have unit_end : ∀ c ∈ rest.head?, isUnitPart c = false :=
    fun c head => (isNumeralPart_eq_false_iff.mp (stop c head)).2
  have unsigned : n.unsigned ++ rest = n.whole ++ (n.pointed ++ (n.unit ++ rest)) := by
    simp [Numeral.unsigned]
  have behind : (n.unsigned ++ rest).drop (numeralLength n.literal) = n.unit ++ rest := by
    rw [length_digits, unsigned, ← List.append_assoc, List.drop_left]
  have digits : numeral? (n.unsigned ++ rest) = some n.literal := by
    rw [unsigned, numeral?_digits inner]
  rw [text, List.append_assoc, read?_signed n.negative fun _ => n.head?_unsigned_ne rest, digits,
    Option.map_some, behind, Text.takeWhile_append_of_head n.unit_parts unit_end,
    Text.dropWhile_append_of_head n.unit_parts unit_end, quantity]

end Numeral

theorem numeral?_eq_none (digit : Text.isDigit c = false) (point : c ≠ '.') :
    numeral? (c :: cs) = none := by
  unfold numeral?
  rw [List.takeWhile_cons_of_neg (by simp [digit]), List.dropWhile_cons_of_neg (by simp [digit])]
  dsimp only
  split
  next eq => exact absurd (List.cons_eq_cons.mp eq).1 point
  next => rfl

/-! ## Tokens -/

/-- The blanks beside an operator, if any. -/
abbrev Gap := {cs : List Char // ∀ c ∈ cs, Text.isBlank c = true}

namespace Gap

def empty : Gap :=
  ⟨[], List.forall_mem_nil _⟩

def blank : Gap :=
  ⟨[' '], List.all_eq_true.mp rfl⟩

end Gap

/-- The tokens of a text, as many as there are. -/
def lex (vars : Entries String) (cs : List Char) : Option (List GroupToken) :=
  GroupToken.ofChars? vars cs.length cs

theorem numeralLength_pos {d : DecimalLiteral} (h : numeral? cs = some d) :
    0 < numeralLength d := by
  have filled (whole fraction : List Char) : (if fraction ≠ [] then
      some (DecimalLiteral.mk whole (some fraction) none)
      else if whole ≠ [] then some ⟨whole, none, none⟩ else none) = some d →
        0 < numeralLength d := by
    intro h
    split at h
    · obtain rfl := Option.some.inj h
      exact Nat.succ_pos _
    · split at h
      next ne =>
        obtain rfl := Option.some.inj h
        exact List.length_pos_iff.mpr ne
      next => cases h
  exact filled _ _ h

theorem length_lt_of_quantity {q : Quantity} (h : Quantity.read? cs = some (q, rest)) :
    rest.length < cs.length := by
  rw [Quantity.read?] at h
  dsimp only at h
  generalize unsigned_eq : (if cs.head? = some '-' then cs.drop 1 else cs) = unsigned at h
  have shorter : unsigned.length ≤ cs.length := by
    rw [← unsigned_eq]
    split
    · rw [List.length_drop]
      exact Nat.sub_le _ _
    · exact Nat.le_refl _
  obtain ⟨d, digits, eq⟩ := Option.bind_eq_some_iff.mp h
  have ne : unsigned ≠ [] := by
    rintro rfl
    cases digits
  have behind : rest = (unsigned.drop (numeralLength d)).dropWhile isUnitPart := by
    cases eq
    rfl
  have rest_le :=
    (List.dropWhile_sublist (l := unsigned.drop (numeralLength d)) isUnitPart).length_le
  have pos := numeralLength_pos digits
  have filled := List.length_pos_iff.mpr ne
  rw [← behind, List.length_drop] at rest_le
  omega

theorem length_lt_of_token {token : GroupToken}
    (h : GroupToken.read? vars cs = some (token, rest)) : rest.length < cs.length := by
  cases cs with
  | nil => cases h
  | cons c r =>
    rw [GroupToken.read?] at h
    split at h
    · split at h
      · obtain ⟨literal, _, h⟩ := Option.bind_eq_some_iff.mp h
        obtain ⟨q, _, h⟩ := Option.bind_eq_some_iff.mp h
        cases h
        exact Nat.lt_succ_of_le (List.dropWhile_sublist isNamePart).length_le
      · cases h
    · split at h
      next q behind found =>
        cases h
        exact length_lt_of_quantity found
      next =>
        obtain ⟨op, _, eq⟩ := Option.map_eq_some_iff.mp h
        cases eq
        exact Nat.lt_succ_self _

/-- The length of a text is a bound on the number of its tokens. -/
theorem ofChars?_eq_lex {n : Nat} (h : cs.length ≤ n) :
    GroupToken.ofChars? vars n cs = lex vars cs := by
  have step : ∀ length n, length ≤ n → ∀ cs : List Char, cs.length ≤ length →
      GroupToken.ofChars? vars n cs = GroupToken.ofChars? vars length cs := by
    intro length
    induction length with
    | zero =>
      rintro n - cs h
      obtain rfl := List.length_eq_zero_iff.mp (Nat.le_zero.mp h)
      cases n <;> rfl
    | succ length ih =>
      rintro (_ | n) bound cs h
      · cases bound
      rw [GroupToken.ofChars?, GroupToken.ofChars?]
      have trimmed : (Text.trimStart cs).length ≤ cs.length :=
        (List.dropWhile_sublist Text.isBlank).length_le
      generalize Text.trimStart cs = body at trimmed
      cases body with
      | nil => rfl
      | cons c body =>
        dsimp only
        cases read : GroupToken.read? vars (c :: body) with
        | none => rfl
        | some result =>
          obtain ⟨token, rest⟩ := result
          have shorter := length_lt_of_token read
          have same := ih n (Nat.le_of_succ_le_succ bound) rest (by omega)
          simp only [Option.bind_eq_bind, Option.bind_some, same]
  exact step cs.length n h cs (Nat.le_refl _)

theorem lex_gap (gap : Gap) (cs : List Char) : lex vars (gap.val ++ cs) = lex vars cs := by
  have trimmed : Text.trimStart (gap.val ++ cs) = Text.trimStart cs :=
    List.dropWhile_append_of_pos gap.property
  have longer : cs.length ≤ (gap.val ++ cs).length := by simp
  rw [← ofChars?_eq_lex longer, lex]
  cases (gap.val ++ cs).length with
  | zero => rw [GroupToken.ofChars?, GroupToken.ofChars?, trimmed]
  | succ n => rw [GroupToken.ofChars?, GroupToken.ofChars?, trimmed]

section Cons

variable (visible : Text.isBlank c = false)

include visible

theorem lex_eq (cs : List Char) : lex vars (c :: cs) = do
    let (token, rest) ← GroupToken.read? vars (c :: cs)
    return token :: (← GroupToken.ofChars? vars cs.length rest) := by
  have trimmed : Text.trimStart (c :: cs) = c :: cs :=
    List.dropWhile_cons_of_neg (by simp [visible])
  rw [lex, List.length_cons, GroupToken.ofChars?, trimmed]

/-- What stands at the front is one token, and the others are those of the rest. -/
theorem lex_cons {token : GroupToken} (h : GroupToken.read? vars (c :: cs) = some (token, rest)) :
    lex vars (c :: cs) = (lex vars rest).map (token :: ·) := by
  have shorter : rest.length ≤ cs.length := Nat.le_of_lt_succ (length_lt_of_token h)
  rw [lex_eq visible, h, Option.map_eq_bind]
  simp only [Option.bind_eq_bind, Option.bind_some, ofChars?_eq_lex shorter]
  rfl

theorem lex_eq_none (h : GroupToken.read? vars (c :: cs) = none) : lex vars (c :: cs) = none := by
  rw [lex_eq visible, h]
  rfl

end Cons

/-! ## Operands and operators -/

/-- The name of a variable; one that begins with a dash is not found in a group. -/
structure VariableName where
  dashed : Bool
  first : Char
  others : List Char
  start : isNameStart first = true
  parts : ∀ c ∈ others, isNamePart c = true

def VariableName.text (name : VariableName) : List Char :=
  (if name.dashed then ['-'] else []) ++ name.first :: name.others

/-- A numeral, or a variable that is declared as one. -/
inductive Operand (vars : Entries String) where
  | numeral (n : Numeral)
  | named (name : VariableName) (n : Numeral) (lineEnd : Bool)
    (declared : Entries.get? vars (.ofList name.text) =
      some (.ofList (n.text ++ if lineEnd then ['\n'] else [])))

namespace Operand

def value : Operand vars → Numeral
  | .numeral n => n
  | .named _ n _ _ => n

def quantity (operand : Operand vars) : Quantity :=
  operand.value.quantity

def text : Operand vars → List Char
  | .numeral n => n.text
  | .named name _ _ _ => '@' :: name.text

/-- A numeral without a sign. -/
def isUnsigned : Operand vars → Bool
  | .numeral n => !n.negative
  | .named .. => false

def isNamed : Operand vars → Bool
  | .numeral _ => false
  | .named .. => true

def isDashed : Operand vars → Bool
  | .numeral _ => false
  | .named name _ _ _ => name.dashed

/-- Whether the operand ends in front of the character. -/
def endsAt : Operand vars → Char → Bool
  | .numeral _, c => !isNumeralPart c
  | .named .., c => !isNamePart c

end Operand

def Operator.char : Operator → Char
  | .times => '*'
  | .dividedBy => '/'
  | .plus => '+'
  | .minus => '-'

namespace Numeral

variable {n : Numeral}

theorem exists_text_eq (n : Numeral) (rest : List Char) :
    ∃ c cs, n.text ++ rest = c :: cs ∧ Text.isBlank c = false ∧ c ≠ '@' := by
  cases negative : n.negative with
  | true => exact ⟨'-', n.unsigned ++ rest, by simp [text, negative], rfl, by decide⟩
  | false =>
    obtain ⟨c, cs, eq, first⟩ := n.exists_unsigned_eq rest
    refine ⟨c, cs, by simpa [text, negative] using eq, ?_, ?_⟩
    · rcases first with digit | rfl
      · exact Text.isBlank_of (by decide) digit
      · rfl
    · rintro rfl
      revert first
      decide

theorem ofLiteral?_text (lineEnd : Bool) :
    ofLiteral? (.ofList (n.text ++ if lineEnd then ['\n'] else [])) = some n.quantity := by
  have stop : ∀ c ∈ (if lineEnd then ['\n'] else []).head?, isNumeralPart c = false := by
    cases lineEnd with
    | true =>
      rintro _ ⟨⟩
      decide
    | false => exact nofun
  rw [ofLiteral?, String.toList_ofList, read?_text stop]
  cases lineEnd <;> rfl

end Numeral

theorem lex_operand {operand : Operand vars} (plain : operand.isDashed = false)
    (stop : ∀ c ∈ rest.head?, operand.endsAt c = true) :
    lex vars (operand.text ++ rest) = (lex vars rest).map (.operand operand.quantity :: ·) := by
  cases operand with
  | numeral n =>
    have stop : ∀ c ∈ rest.head?, isNumeralPart c = false := fun c head =>
      (Bool.not_eq_true' _).mp (stop c head)
    obtain ⟨c, cs, eq, visible, unlike⟩ := n.exists_text_eq rest
    have read : GroupToken.read? vars (c :: cs) = some (.operand n.quantity, rest) := by
      rw [GroupToken.read?, if_neg unlike, ← eq, Numeral.read?_text stop]
    rw [Operand.text, eq, lex_cons visible read]
    rfl
  | named name n lineEnd declared =>
    have undashed : name.dashed = false := plain
    have stop : ∀ c ∈ rest.head?, isNamePart c = false := fun c head =>
      (Bool.not_eq_true' _).mp (stop c head)
    have parts : ∀ c ∈ name.first :: name.others, isNamePart c = true :=
      List.forall_mem_cons.mpr ⟨isNamePart_of_isNameStart name.start, name.parts⟩
    have text : name.text = name.first :: name.others := by simp [VariableName.text, undashed]
    have start : (name.first :: name.others ++ rest).head?.any isNameStart = true := name.start
    have read : GroupToken.read? vars ('@' :: (name.first :: name.others ++ rest)) =
        some (.operand n.quantity, rest) := by
      rw [text] at declared
      rw [GroupToken.read?, if_pos rfl, if_pos start, Text.takeWhile_append_of_head parts stop,
        Text.dropWhile_append_of_head parts stop]
      simp only [declared, Option.bind_eq_bind, Option.bind_some, Numeral.ofLiteral?_text]
      rfl
    rw [Operand.text, text, List.cons_append, lex_cons rfl read]
    rfl

theorem lex_operand_dashed {operand : Operand vars} (dashed : operand.isDashed = true) :
    lex vars (operand.text ++ rest) = none := by
  cases operand with
  | numeral n => cases dashed
  | named name n lineEnd declared =>
    have dashed : name.dashed = true := dashed
    refine lex_eq_none rfl ?_
    rw [GroupToken.read?, if_pos rfl, VariableName.text, if_pos dashed]
    rfl

/-- A minus sign is read as an operator unless a numeral begins right behind it. -/
theorem lex_operator (op : Operator) (apart : op = .minus → numeral? rest = none) :
    lex vars (op.char :: rest) = (lex vars rest).map (.operator op :: ·) := by
  have visible : Text.isBlank op.char = false := by cases op <;> rfl
  refine lex_cons visible ?_
  have digits : Quantity.read? (op.char :: rest) = none := by
    cases op with
    | minus =>
      have signed := @Numeral.read?_signed rest true nofun
      rw [apart rfl] at signed
      exact signed
    | times | dividedBy | plus =>
      exact (Numeral.read?_signed false fun _ => by simp [Operator.char]).trans
        (by rw [numeral?_eq_none (by decide) (by decide)]; rfl)
  rw [GroupToken.read?, if_neg (by cases op <;> decide), digits]
  cases op <;> rfl

theorem lex_minus {n : Numeral} (unsigned : n.negative = false)
    (stop : ∀ c ∈ rest.head?, isNumeralPart c = false) :
    ∃ q, lex vars ('-' :: (n.text ++ rest)) = (lex vars rest).map (.operand q :: ·) := by
  have signed : ('-' :: (n.text ++ rest)) =
      (.numeral { n with negative := true } : Operand vars).text ++ rest := by
    simp [Operand.text, Numeral.text, unsigned, Numeral.unsigned, Numeral.pointed]
  refine ⟨_, signed ▸ lex_operand rfl fun c head => ?_⟩
  exact (Bool.not_eq_true' _).mpr (stop c head)

/-! ## Groups -/

/-- An operator with the operand behind it and the blanks beside it. -/
structure Link (vars : Entries String) where
  before : Gap
  operator : Operator
  after : Gap
  operand : Operand vars

namespace Link

def text (link : Link vars) : List Char :=
  link.before.val ++ link.operator.char :: (link.after.val ++ link.operand.text)

/-- Whether the operator is a minus sign that the numeral behind it takes for its own. -/
def isTight (link : Link vars) : Bool :=
  link.operator = .minus && link.after.val.isEmpty && link.operand.isUnsigned

/-- Whether the operator and the operand are read as such. -/
def isPlain (link : Link vars) : Bool :=
  !link.isTight && !link.operand.isDashed

def pair (link : Link vars) : Operator × Quantity :=
  (link.operator, link.operand.quantity)

variable {link : Link vars}

theorem numeral?_eq_none_of_minus (loose : link.isTight = false) (minus : link.operator = .minus) :
    numeral? (link.after.val ++ (link.operand.text ++ rest)) = none := by
  obtain ⟨before, op, ⟨after, blank⟩, operand⟩ := link
  cases after with
  | cons c after =>
    have blank := (List.forall_mem_cons.mp blank).1
    refine numeral?_eq_none (Text.not_of_isBlank (by decide) blank) ?_
    rintro rfl
    cases blank
  | nil =>
    obtain rfl : op = .minus := minus
    have signed : operand.isUnsigned = false := loose
    cases operand with
    | named => exact numeral?_eq_none (by decide) (by decide)
    | numeral n =>
      have negative : n.negative = true := by simpa [Operand.isUnsigned] using signed
      rw [Operand.text, Numeral.text, if_pos negative]
      exact numeral?_eq_none (by decide) (by decide)

theorem text_append (link : Link vars) (rest : List Char) :
    link.text ++ rest = link.before.val ++ link.operator.char ::
      (link.after.val ++ (link.operand.text ++ rest)) := by
  simp [text]

section Lex

variable (stop : ∀ c ∈ rest.head?, link.operand.endsAt c = true)

include stop

/-- A plain link is read as its operator and its operand. -/
theorem lex_text (plain : link.isPlain = true) :
    lex vars (link.text ++ rest) = (lex vars rest).map fun tokens =>
      .operator link.operator :: .operand link.operand.quantity :: tokens := by
  obtain ⟨loose, undashed⟩ : link.isTight = false ∧ link.operand.isDashed = false := by
    simpa [isPlain] using plain
  rw [text_append, lex_gap, lex_operator _ fun minus => numeral?_eq_none_of_minus loose minus,
    lex_gap, lex_operand undashed stop, Option.map_map]
  rfl

/-- A tight link is read as one operand, and a name with a dash is not read at all. -/
theorem lex_text_of_not_plain (plain : link.isPlain = false) :
    (lex vars (link.text ++ rest)).bind GroupToken.tail? = none := by
  rw [text_append, lex_gap]
  by_cases tight : link.isTight = true
  · obtain ⟨before, op, ⟨after, blank⟩, operand⟩ := link
    obtain ⟨⟨rfl, rfl⟩, unsigned⟩ : (op = .minus ∧ after = []) ∧ operand.isUnsigned = true := by
      simpa [isTight] using tight
    cases operand with
    | named => cases unsigned
    | numeral n =>
      have unsigned : n.negative = false := by simpa [Operand.isUnsigned] using unsigned
      obtain ⟨q, read⟩ := @lex_minus vars rest n unsigned fun c head =>
        (Bool.not_eq_true' _).mp (stop c head)
      refine (congrArg (Option.bind · GroupToken.tail?) read).trans ?_
      cases lex vars rest <;> rfl
  · have loose : link.isTight = false := Bool.eq_false_iff.mpr tight
    have dashed : link.operand.isDashed = true := by simpa [isPlain, loose] using plain
    rw [lex_operator _ fun minus => numeral?_eq_none_of_minus loose minus, lex_gap,
      lex_operand_dashed dashed]
    rfl

end Lex

end Link

/-- No name runs into a dash behind it. -/
def Apart : Operand vars → List (Link vars) → Prop
  | _, [] => True
  | operand, link :: links =>
    (operand.isNamed = true → link.before.val ≠ [] ∨ link.operator ≠ .minus) ∧
      Apart link.operand links

variable {operand : Operand vars} {links : List (Link vars)} {trail : Gap}

theorem apart_of_spaced (spaced : ∀ link ∈ links, link.before.val ≠ []) : Apart operand links := by
  induction links generalizing operand with
  | nil => trivial
  | cons link links ih =>
    obtain ⟨here, others⟩ := List.forall_mem_cons.mp spaced
    exact ⟨fun _ => .inl here, ih others⟩

theorem Operand.endsAt_of_isBlank (operand : Operand vars) (blank : Text.isBlank c = true) :
    operand.endsAt c = true := by
  rw [← Bool.not_eq_false']
  cases operand with
  | numeral =>
    have other : isNumeralPart c = false := Text.not_of_isBlank (by decide) blank
    rw [endsAt, other]
    rfl
  | named =>
    have other : isNamePart c = false := Text.not_of_isBlank (by decide +kernel) blank
    rw [endsAt, other]
    rfl

theorem Operand.endsAt_char {op : Operator} (apart : operand.isNamed = true → op ≠ .minus) :
    operand.endsAt op.char = true := by
  rw [← Bool.not_eq_false']
  cases operand with
  | numeral =>
    have other : isNumeralPart op.char = false := by cases op <;> decide
    rw [endsAt, other]
    rfl
  | named =>
    have other : isNamePart op.char = false := by
      cases op with
      | minus => exact absurd rfl (apart rfl)
      | _ => decide
    rw [endsAt, other]
    rfl

theorem Apart.endsAt (apart : Apart operand links) :
    ∀ c ∈ (links.flatMap Link.text ++ trail.val).head?, operand.endsAt c = true := by
  have of_gap {gap : Gap} {c : Char} {cs : List Char} (eq : gap.val = c :: cs) :
      operand.endsAt c = true :=
    operand.endsAt_of_isBlank (gap.property c (by simp [eq]))
  cases links with
  | nil =>
    intro c head
    obtain ⟨cs, eq⟩ := List.head?_eq_some_iff.mp head
    exact of_gap eq
  | cons link links =>
    rw [List.flatMap_cons, List.append_assoc, Link.text_append]
    cases before : link.before.val with
    | cons c cs =>
      rintro _ ⟨⟩
      exact of_gap before
    | nil =>
      rintro _ ⟨⟩
      refine Operand.endsAt_char fun named => ?_
      exact (apart.1 named).resolve_left (not_not_intro before)

/-- The operators and operands of a group, if all of them are read as such. -/
theorem tail?_links (apart : Apart operand links) :
    (lex vars (links.flatMap Link.text ++ trail.val)).bind GroupToken.tail? =
      if links.all Link.isPlain then some (links.map Link.pair) else none := by
  induction links generalizing operand with
  | nil =>
    rw [List.flatMap_nil, List.nil_append, ← List.append_nil trail.val, lex_gap]
    rfl
  | cons link links ih =>
    obtain ⟨_, apart⟩ := apart
    rw [List.flatMap_cons, List.append_assoc, List.all_cons]
    cases plain : link.isPlain with
    | false => rw [Link.lex_text_of_not_plain apart.endsAt plain, Bool.false_and, if_neg nofun]
    | true =>
      have others := ih apart
      have pairs (tokens : List GroupToken) : GroupToken.tail?
          (.operator link.operator :: .operand link.operand.quantity :: tokens) =
            (GroupToken.tail? tokens).map (link.pair :: ·) := rfl
      rw [Link.lex_text apart.endsAt plain, Bool.true_and, Option.bind_map, Function.comp_def]
      simp only [pairs]
      refine Option.map_bind.symm.trans ?_
      rw [others]
      cases links.all Link.isPlain <;> rfl

/-- A group as it is written. -/
structure Group (vars : Entries String) where
  lead : Gap
  first : Operand vars
  links : List (Link vars)
  trail : Gap

namespace Group

def text (g : Group vars) : List Char :=
  g.lead.val ++ (g.first.text ++ (g.links.flatMap Link.text ++ g.trail.val))

/-- Whether all operands and operators are read as such. -/
def isPlain (g : Group vars) : Bool :=
  !g.first.isDashed && g.links.all Link.isPlain

/-- What the group is folded to if it is read. -/
def result? (g : Group vars) : Option (List Char) := do
  let (x, terms) ← products g.first.quantity.value (g.links.map Link.pair)
  return (NumberFormat.plain.write ((sum x terms).roundToPlaces 8)).toList ++
    firstUnit (g.first.quantity :: g.links.map fun link => link.operand.quantity)

/-- A group is folded to its result if all of it is read, and else not at all. -/
theorem foldGroup?_text (g : Group vars) (long : g.links ≠ []) (apart : Apart g.first g.links) :
    foldGroup? vars g.text = if g.isPlain then g.result? else none := by
  have whole : GroupToken.ofChars? vars g.text.length g.text =
      lex vars (g.first.text ++ (g.links.flatMap Link.text ++ g.trail.val)) := by
    rw [ofChars?_eq_lex (Nat.le_refl _), text, lex_gap]
  rw [foldGroup?, whole, isPlain]
  cases dashed : g.first.isDashed with
  | true =>
    rw [lex_operand_dashed dashed]
    rfl
  | false =>
    have others := @tail?_links _ _ _ g.trail apart
    rw [lex_operand dashed apart.endsAt, Bool.not_false, Bool.true_and]
    cases read : lex vars (g.links.flatMap Link.text ++ g.trail.val) with
    | none =>
      rw [read, Option.bind_none] at others
      cases plain : g.links.all Link.isPlain with
      | false => rfl
      | true => simp [plain] at others
    | some tokens =>
      rw [read, Option.bind_some] at others
      rw [Option.map_some]
      dsimp only [Option.bind_eq_bind, Option.bind_some]
      rw [others]
      cases g.links.all Link.isPlain with
      | false => rfl
      | true =>
        have filled : g.links.map Link.pair ≠ [] := by simpa using long
        rw [if_pos rfl, if_pos rfl, Option.bind_some, if_neg filled, result?]
        simp [Link.pair, Function.comp_def]

end Group

end PageComponent.Style
