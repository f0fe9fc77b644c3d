import PageComponent.Value.Basic

/-!
# Equality of data

Data are equal by content: booleans count as one and zero, numbers are equal across their two
kinds, and the order of the keys of a mapping does not matter.
-/

namespace PageComponent.Value

def numeral? : Value → Option Number
  | .bool b => some (.int (if b then 1 else 0))
  | .number n => some n
  | _ => none

/-- Equality of values that contain no others. -/
def sameScalar : Value → Value → Bool
  | .null, .null | .undefined, .undefined => true
  | .text s, .text t => s == t
  | a, b =>
    match a.numeral?, b.numeral? with
    | some m, some n => m.equal n
    | _, _ => false

mutual

def same : Value → Value → Bool
  | .list items, other =>
    match other with
    | .list others => sameItems items others
    | _ => false
  | .mapping fields, other =>
    match other with
    | .mapping others => fields.length == others.length && sameFields fields others
    | _ => false
  | a, b => sameScalar a b

def sameItems : List Value → List Value → Bool
  | [], [] => true
  | a :: items, b :: others => same a b && sameItems items others
  | _, _ => false

def sameFields : List (String × Value) → Entries Value → Bool
  | [], _ => true
  | (key, value) :: fields, others =>
    match Entries.get? others key with
    | some other => same value other && sameFields fields others
    | none => false

end

end PageComponent.Value
