import PageComponent.Toml.Moment
import PageComponent.Value.Inspect

/-!
# Values of settings

The values that a TOML document can hold.
-/

namespace PageComponent.Toml

inductive Value where
  | bool (b : Bool)
  | number (n : Number)
  | text (s : String)
  | moment (m : Moment)
  | list (items : List Value)
  | table (fields : List (String × Value))

abbrev Table := Entries Value

namespace Value

instance : Inhabited Value := ⟨bool false⟩

/-- Zero and empty texts, lists and tables are as good as no value. -/
def isFilled : Value → Bool
  | .bool b => b
  | .number n => !n.isZero
  | .text s => s != ""
  | .moment _ => true
  | .list items => !items.isEmpty
  | .table fields => !fields.isEmpty

mutual

def inspect : Value → String
  | .bool b => if b then "True" else "False"
  | .number n => n.inspect
  | .text s => quoted s
  | .moment m => m.inspect
  | .list items => "[" ++ ", ".intercalate (inspectItems items) ++ "]"
  | .table fields => "\x7b" ++ ", ".intercalate (inspectFields fields) ++ "\x7d"

def inspectItems : List Value → List String
  | [] => []
  | item :: rest => item.inspect :: inspectItems rest

def inspectFields : List (String × Value) → List String
  | [] => []
  | (key, value) :: rest => (quoted key ++ ": " ++ value.inspect) :: inspectFields rest

end

/-- A text or moment as it is written, or the inspection of any other value. -/
def label : Value → String
  | .text s => s
  | .moment m => m.text
  | v => v.inspect

end Value

end PageComponent.Toml
