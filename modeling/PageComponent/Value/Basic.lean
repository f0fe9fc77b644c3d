import PageComponent.Entries
import PageComponent.Number.Basic

/-!
# Values

Parameters, style trees and results of expressions are values: null and undefined, booleans,
numbers, texts, lists and mappings that keep the order of their keys.
-/

namespace PageComponent

inductive Value where
  | null
  | undefined
  | bool (b : Bool)
  | number (n : Number)
  | text (s : String)
  | list (items : List Value)
  | mapping (fields : List (String × Value))

namespace Value

instance : Inhabited Value := ⟨null⟩

def int (n : Int) : Value := .number (.int n)

def float (x : Binary) : Value := .number (.float x)

def isNullish : Value → Bool
  | .null | .undefined => true
  | _ => false

def isNumber : Value → Bool
  | .number _ => true
  | _ => false

def isMapping : Value → Bool
  | .mapping _ => true
  | _ => false

/-- Zero and empty texts, lists and mappings are as good as no value. -/
def isFilled : Value → Bool
  | .null | .undefined => false
  | .bool b => b
  | .number n => !n.isZero
  | .text s => s != ""
  | .list items => !items.isEmpty
  | .mapping fields => !fields.isEmpty

/-- The field of a mapping; any other value has none. -/
def field? : Value → String → Option Value
  | .mapping fields, key => Entries.get? fields key
  | _, _ => none

/-- What `===` compares: values of different kinds are never equal. -/
inductive Kind where
  | null
  | undefined
  | boolean
  | number
  | text
  | object
deriving DecidableEq

def kind : Value → Kind
  | .null => .null
  | .undefined => .undefined
  | .bool _ => .boolean
  | .number _ => .number
  | .text _ => .text
  | .list _ | .mapping _ => .object

mutual

def decEq : (a b : Value) → Decidable (a = b)
  | .null, b => by cases b <;> first | exact isTrue rfl | exact isFalse nofun
  | .undefined, b => by cases b <;> first | exact isTrue rfl | exact isFalse nofun
  | .bool a, .bool b => decidable_of_iff (a = b) (by simp)
  | .number a, .number b => decidable_of_iff (a = b) (by simp)
  | .text a, .text b => decidable_of_iff (a = b) (by simp)
  | .list a, .list b => @decidable_of_iff _ (a = b) (by simp) (decEqItems a b)
  | .mapping a, .mapping b => @decidable_of_iff _ (a = b) (by simp) (decEqFields a b)
  | .bool _, .null | .bool _, .undefined | .bool _, .number _ | .bool _, .text _
  | .bool _, .list _ | .bool _, .mapping _ => isFalse nofun
  | .number _, .null | .number _, .undefined | .number _, .bool _ | .number _, .text _
  | .number _, .list _ | .number _, .mapping _ => isFalse nofun
  | .text _, .null | .text _, .undefined | .text _, .bool _ | .text _, .number _
  | .text _, .list _ | .text _, .mapping _ => isFalse nofun
  | .list _, .null | .list _, .undefined | .list _, .bool _ | .list _, .number _
  | .list _, .text _ | .list _, .mapping _ => isFalse nofun
  | .mapping _, .null | .mapping _, .undefined | .mapping _, .bool _ | .mapping _, .number _
  | .mapping _, .text _ | .mapping _, .list _ => isFalse nofun

def decEqItems : (a b : List Value) → Decidable (a = b)
  | [], [] => isTrue rfl
  | [], _ :: _ | _ :: _, [] => isFalse nofun
  | x :: a, y :: b =>
    match decEq x y, decEqItems a b with
    | isTrue h, isTrue h' => isTrue (by rw [h, h'])
    | isFalse h, _ => isFalse fun e => h (List.cons.inj e).1
    | _, isFalse h => isFalse fun e => h (List.cons.inj e).2

def decEqFields : (a b : List (String × Value)) → Decidable (a = b)
  | [], [] => isTrue rfl
  | [], _ :: _ | _ :: _, [] => isFalse nofun
  | (k, x) :: a, (l, y) :: b =>
    if hk : k = l then
      match decEq x y, decEqFields a b with
      | isTrue h, isTrue h' => isTrue (by rw [hk, h, h'])
      | isFalse h, _ => isFalse fun e => h (Prod.mk.inj (List.cons.inj e).1).2
      | _, isFalse h => isFalse fun e => h (List.cons.inj e).2
    else isFalse fun e => hk (Prod.mk.inj (List.cons.inj e).1).1

end

instance : DecidableEq Value := decEq

end Value

/-- The namespace of an expression: parameters by name. -/
abbrev Params := Entries Value

end PageComponent
