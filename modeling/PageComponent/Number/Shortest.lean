import PageComponent.Number.Binary

/-!
# Shortest decimals

The shortest decimal of a binary number has the fewest digits among those that read back as the
number, and of these it is the nearest to it; on a tie its last digit is even.
-/

namespace PageComponent

/-- The number `coefficient * 10 ^ exponent`. -/
structure Decimal where
  coefficient : Nat
  exponent : Int
deriving DecidableEq

namespace Decimal

def digits (d : Decimal) : List Char :=
  Nat.toDigits 10 d.coefficient

/-- The position of the decimal point: `d` is `0.d₁d₂…` times ten to this power. -/
def point (d : Decimal) : Int :=
  d.digits.length + d.exponent

def toBinary (d : Decimal) (negative : Bool) : Binary :=
  .ofDecimal negative d.coefficient d.exponent

def trimZeros (d : Decimal) : Decimal :=
  if d.coefficient ≠ 0 ∧ d.coefficient % 10 = 0 then
    trimZeros ⟨d.coefficient / 10, d.exponent + 1⟩
  else d
termination_by d.coefficient
decreasing_by omega

/-- The fraction `n / d` in units of `10 ^ e`, again as a fraction. -/
def inUnits (n d : Nat) (e : Int) : Nat × Nat :=
  if 0 ≤ e then (n, d * Nat.pow 10 e.toNat) else (n * Nat.pow 10 (-e).toNat, d)

/-- The least `k` with `n / d < 10 ^ k`. -/
def pointOf (n d : Nat) : Int :=
  let k := ((Nat.toDigits 10 n).length : Int) - (Nat.toDigits 10 d).length
  let (n', d') := inUnits n d k
  if n' < d' then k else k + 1

/-- The two neighbours of `n / d` among the multiples of `10 ^ unit`, the nearer first. -/
def neighbours (n d : Nat) (unit : Int) : List Decimal :=
  let (n', d') := inUnits n d unit
  let q := n' / d'
  let r := n' % d'
  if 2 * r < d' ∨ (2 * r = d' ∧ q % 2 = 0) then [⟨q, unit⟩, ⟨q + 1, unit⟩]
  else [⟨q + 1, unit⟩, ⟨q, unit⟩]

/-- All digits of `m * 2 ^ e`. -/
def exact (m : Nat) (e : Int) : Decimal :=
  if 0 ≤ e then ⟨m * Nat.pow 2 e.toNat, 0⟩ else ⟨m * Nat.pow 5 (-e).toNat, e⟩

/-- The shortest decimal that reads back as `m * 2 ^ e`; seventeen digits are always enough. -/
def shortest (m : Nat) (e : Int) : Decimal :=
  let x := Binary.ofScaled false m e
  let (n, d) := Binary.inUnits m 1 (-e)
  let point := pointOf n d
  let grids := (List.range 17).map (fun k : Nat => neighbours n d (point - (k + 1)))
  match grids.flatten.find? (fun c => c.toBinary false = x) with
  | some c => c.trimZeros
  | none => (exact m e).trimZeros

end Decimal

end PageComponent
