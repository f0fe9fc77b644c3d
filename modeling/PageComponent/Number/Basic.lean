import PageComponent.Number.Binary

/-!
# Numbers

A number is an integer of any size or a binary floating-point number. Integers stay exact among
themselves; beside a binary number an integer is rounded to one, which fails if it is too large.
Comparison never rounds.
-/

namespace PageComponent

inductive Number where
  | int (n : Int)
  | float (x : Binary)
deriving DecidableEq

/-- The failure of an integer, or a quotient of integers, to be near any finite binary number. -/
inductive TooLarge where
  | tooLarge
deriving DecidableEq

namespace Number

def nan : Number := .float .nan

def toBinary : Number → Except TooLarge Binary
  | .float x => .ok x
  | .int n =>
    let x := Binary.ofInt n
    if x.isFinite then .ok x else .error .tooLarge

def isZero : Number → Bool
  | .int n => n == 0
  | .float x => x.isZero

def isNaN (a : Number) : Except TooLarge Bool :=
  return (← a.toBinary).isNaN

def neg : Number → Number
  | .int n => .int (-n)
  | .float x => .float x.neg

def abs : Number → Number
  | .int n => .int n.natAbs
  | .float x => .float x.abs

def add : Number → Number → Except TooLarge Number
  | .int m, .int n => .ok (.int (m + n))
  | a, b => return .float ((← a.toBinary).add (← b.toBinary))

def sub : Number → Number → Except TooLarge Number
  | .int m, .int n => .ok (.int (m - n))
  | a, b => return .float ((← a.toBinary).sub (← b.toBinary))

def mul : Number → Number → Except TooLarge Number
  | .int m, .int n => .ok (.int (m * n))
  | a, b => return .float ((← a.toBinary).mul (← b.toBinary))

/-- The quotient, always a binary number; the quotient of integers is rounded only once. -/
def div : Number → Number → Except TooLarge Number
  | .int m, .int n =>
    let x := Binary.ofFraction ((m < 0) != (n < 0)) m.natAbs n.natAbs
    if x.isFinite then .ok (.float x) else .error .tooLarge
  | a, b => return .float ((← a.toBinary).div (← b.toBinary))

/-- The remainder of the truncating division, computed on binary numbers; that of two integers is
an integer again. -/
def rem (a b : Number) : Except TooLarge Number := do
  let x ← a.toBinary
  match x with
  | .infinite _ => return nan
  | _ =>
    let y ← b.toBinary
    match y, a, b with
    | .infinite _, _, _ => return a
    | _, .int _, .int _ => return .int ((x.rem y).truncate?.getD 0)
    | _, _, _ => return .float (x.rem y)

def compare? : Number → Number → Option Ordering
  | .int m, .int n => some (compare m n)
  | .float x, .float y => x.compare? y
  | .float x, .int n => x.compareInt? n
  | .int m, .float y => (y.compareInt? m).map Ordering.swap

def equal (a b : Number) : Bool :=
  a.compare? b == some .eq

def less (a b : Number) : Bool :=
  a.compare? b == some .lt

/-- The nearest integer, a half going up; infinities and not-a-number stay. -/
def round : Number → Except TooLarge Number
  | .int n => do
    let x := (← toBinary (.int n)).add (Binary.ofFraction false 1 2)
    return .int (x.floor?.getD 0)
  | .float x =>
    match (x.add (Binary.ofFraction false 1 2)).floor? with
    | some n => .ok (.int n)
    | none => .ok (.float x)

end Number

end PageComponent
