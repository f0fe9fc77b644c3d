import PageComponent.Number.Format
import PageComponent.Text.Quoted
import PageComponent.Value.Basic

/-!
# Inspection

The text by which a message shows a value: texts are quoted, integers and binary numbers look
different, and lists and mappings are written out.
-/

namespace PageComponent

def Number.inspect : Number → String
  | .int n => toString n
  | .float x => NumberFormat.precise.write x

namespace Value

mutual

def inspect : Value → String
  | .null => "None"
  | .undefined => "UNDEFINED"
  | .bool b => if b then "True" else "False"
  | .number n => n.inspect
  | .text s => quoted s
  | .list items => "[" ++ ", ".intercalate (inspectItems items) ++ "]"
  | .mapping fields => "\x7b" ++ ", ".intercalate (inspectFields fields) ++ "\x7d"

def inspectItems : List Value → List String
  | [] => []
  | item :: rest => item.inspect :: inspectItems rest

def inspectFields : List (String × Value) → List String
  | [] => []
  | (key, value) :: rest => (quoted key ++ ": " ++ value.inspect) :: inspectFields rest

end

/-- The text itself, or the inspection of a value that is no text. -/
def label : Value → String
  | .text s => s
  | v => v.inspect

end Value

end PageComponent
