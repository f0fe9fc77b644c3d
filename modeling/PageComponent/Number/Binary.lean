/-!
# Binary floating-point numbers

Numbers of fifty-three significant bits, with signed zeros, two infinities and one not-a-number.
Every operation computes an exact fraction and rounds it once, to the nearest number and on a tie
to the even one; a fraction too large for the format becomes an infinity.
-/

namespace PageComponent

/-- Fifty-three bits, fewer only at the lowest exponent. -/
def Canonical (m : Nat) (e : Int) : Prop :=
  m < Nat.pow 2 53 ∧ -1074 ≤ e ∧ e ≤ 971 ∧ (Nat.pow 2 52 ≤ m ∨ e = -1074)

instance (m : Nat) (e : Int) : Decidable (Canonical m e) :=
  inferInstanceAs (Decidable (_ ∧ _ ∧ _ ∧ (_ ∨ _)))

/-- A finite number is `m * 2 ^ e`, negated if `negative`. -/
inductive Binary where
  | nan
  | infinite (negative : Bool)
  | finite (negative : Bool) (m : Nat) (e : Int) (canonical : Canonical m e)
deriving DecidableEq

namespace Binary

def zero (negative : Bool) : Binary :=
  .finite negative 0 (-1074) (by decide)

instance : Inhabited Binary := ⟨zero false⟩

def isNaN : Binary → Bool
  | .nan => true
  | _ => false

def isFinite : Binary → Bool
  | .finite .. => true
  | _ => false

def isZero : Binary → Bool
  | .finite _ m _ _ => m == 0
  | _ => false

/-- The sign bit; not-a-number has none. -/
def isNegative : Binary → Bool
  | .nan => false
  | .infinite s => s
  | .finite s _ _ _ => s

def neg : Binary → Binary
  | .nan => .nan
  | .infinite s => .infinite (!s)
  | .finite s m e h => .finite (!s) m e h

def abs : Binary → Binary
  | .nan => .nan
  | .infinite _ => .infinite false
  | .finite _ m e h => .finite false m e h

/-! ## Rounding -/

/-- The quotient to the nearest natural number, a half to the even one. -/
def divHalfEven (n d : Nat) : Nat :=
  let q := n / d
  let r := n % d
  if 2 * r < d ∨ (2 * r = d ∧ q % 2 = 0) then q else q + 1

/-- The fraction `n / d` in units of `2 ^ e`, again as a fraction. -/
def inUnits (n d : Nat) (e : Int) : Nat × Nat :=
  if 0 ≤ e then (n, d * Nat.pow 2 e.toNat) else (n * Nat.pow 2 (-e).toNat, d)

/-- The greatest `k` with `2 ^ k ≤ n / d`. -/
def floorLog2 (n d : Nat) : Int :=
  let k := (n.log2 : Int) - d.log2
  let (n', d') := inUnits n d k
  if n' < d' then k - 1 else k

def ofParts (negative : Bool) (m : Nat) (e : Int) : Binary :=
  let (m, e) := if m = Nat.pow 2 53 then (Nat.pow 2 52, e + 1) else (m, e)
  if h : Canonical m e then .finite negative m e h else .infinite negative

/-- The number nearest to `n / d`. -/
def ofFraction (negative : Bool) (n d : Nat) : Binary :=
  if n = 0 then zero negative
  else
    let e := max (floorLog2 n d - 52) (-1074)
    let (n', d') := inUnits n d e
    ofParts negative (divHalfEven n' d') e

/-- The number nearest to `n * 2 ^ e`. -/
def ofScaled (negative : Bool) (n : Nat) (e : Int) : Binary :=
  if 0 ≤ e then ofFraction negative (n * Nat.pow 2 e.toNat) 1
  else ofFraction negative n (Nat.pow 2 (-e).toNat)

def ofInt (n : Int) : Binary :=
  ofFraction (n < 0) n.natAbs 1

/-- The number nearest to `n * 10 ^ e`. The bounds keep the powers of ten small: beyond them the
result is an infinity or a zero whatever the digits are. -/
def ofDecimal (negative : Bool) (n : Nat) (e : Int) : Binary :=
  let point := (Nat.toDigits 10 n).length + e
  if n = 0 ∨ point ≤ -330 then zero negative
  else if 330 ≤ point then .infinite negative
  else if 0 ≤ e then ofFraction negative (n * Nat.pow 10 e.toNat) 1
  else ofFraction negative n (Nat.pow 10 (-e).toNat)

/-! ## Arithmetic -/

/-- The signed mantissa in units of `2 ^ unit`, for `unit` at most the exponent. -/
def signedUnits (negative : Bool) (m : Nat) (e unit : Int) : Int :=
  let n : Int := m * Nat.pow 2 (e - unit).toNat
  if negative then -n else n

def add : Binary → Binary → Binary
  | .nan, _ => .nan
  | _, .nan => .nan
  | .infinite s, .infinite t => if s = t then .infinite s else .nan
  | .infinite s, _ => .infinite s
  | _, .infinite t => .infinite t
  | .finite s m e _, .finite t n f _ =>
    let unit := min e f
    let sum := signedUnits s m e unit + signedUnits t n f unit
    if sum = 0 then zero (s && t) else ofScaled (sum < 0) sum.natAbs unit

def sub (x y : Binary) : Binary :=
  add x (neg y)

def mul : Binary → Binary → Binary
  | .nan, _ => .nan
  | _, .nan => .nan
  | .infinite s, .infinite t => .infinite (s != t)
  | .infinite s, .finite t n _ _ => if n = 0 then .nan else .infinite (s != t)
  | .finite s m _ _, .infinite t => if m = 0 then .nan else .infinite (s != t)
  | .finite s m e _, .finite t n f _ => ofScaled (s != t) (m * n) (e + f)

def div : Binary → Binary → Binary
  | .nan, _ => .nan
  | _, .nan => .nan
  | .infinite _, .infinite _ => .nan
  | .infinite s, .finite t _ _ _ => .infinite (s != t)
  | .finite s _ _ _, .infinite t => zero (s != t)
  | .finite s m e _, .finite t n f _ =>
    if n = 0 then (if m = 0 then .nan else .infinite (s != t))
    else
      let unit := min e f
      ofFraction (s != t) (m * Nat.pow 2 (e - unit).toNat) (n * Nat.pow 2 (f - unit).toNat)

/-- The remainder of the division that truncates; it has the sign of the dividend. -/
def rem : Binary → Binary → Binary
  | .nan, _ => .nan
  | _, .nan => .nan
  | .infinite _, _ => .nan
  | x, .infinite _ => x
  | .finite s m e _, .finite _ n f _ =>
    if n = 0 then .nan
    else
      let unit := min e f
      ofScaled s ((m * Nat.pow 2 (e - unit).toNat) % (n * Nat.pow 2 (f - unit).toNat)) unit

/-! ## Comparison -/

/-- The order of the values; not-a-number has none and the two zeros are equal. -/
def compare? : Binary → Binary → Option Ordering
  | .nan, _ => none
  | _, .nan => none
  | .infinite s, .infinite t =>
    some (if s = t then .eq else if s then .lt else .gt)
  | .infinite s, _ => some (if s then .lt else .gt)
  | _, .infinite t => some (if t then .gt else .lt)
  | .finite s m e _, .finite t n f _ =>
    let unit := min e f
    some (compare (signedUnits s m e unit) (signedUnits t n f unit))

/-- The order of a number and an integer, both taken exactly. -/
def compareInt? : Binary → Int → Option Ordering
  | .nan, _ => none
  | .infinite s, _ => some (if s then .lt else .gt)
  | .finite s m e _, n =>
    let unit := min e 0
    some (compare (signedUnits s m e unit) (n * Nat.pow 2 (-unit).toNat))

/-! ## Integers -/

/-- The greatest integer not above a finite number. -/
def floor? : Binary → Option Int
  | .finite s m e _ =>
    if 0 ≤ e then some (signedUnits s m e 0)
    else some ((signedUnits s m e e).fdiv (Nat.pow 2 (-e).toNat))
  | _ => none

/-- The integer part of a finite number. -/
def truncate? : Binary → Option Int
  | .finite s m e _ =>
    if 0 ≤ e then some (signedUnits s m e 0)
    else some ((signedUnits s m e e).tdiv (Nat.pow 2 (-e).toNat))
  | _ => none

/-- The number nearest to the given one among the multiples of `10 ^ -places`, where a half goes
to the even multiple. -/
def roundToPlaces (places : Nat) : Binary → Binary
  | .finite s m e h =>
    if 0 ≤ e then .finite s m e h
    else
      let multiple := divHalfEven (m * Nat.pow 10 places) (Nat.pow 2 (-e).toNat)
      ofFraction s multiple (Nat.pow 10 places)
  | x => x

end Binary

end PageComponent
