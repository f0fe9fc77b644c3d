import PageComponent.Render.Options
import PageComponent.Text.Blank
import PageComponent.Text.Digit
import PageComponent.Text.Replace
import PageComponent.Value.Conversion

/-!
# Style variables

Parameters become variables of the style sheet. The keys of nested mappings are joined by dashes;
a parameter whose own name is such a joined name takes precedence. Numbers and colours are written
bare, other texts in quotes. The background is also available as `bg-type` and `bg-value`.
-/

namespace PageComponent.Style

def backgroundValue : String := "bg-value"

/-- The parameters with the type and the value of the background among them. -/
def withBackground (params : Params) : Except TooLarge Params := do
  match Entries.get? params "bg" with
  | some (.mapping bg) =>
    let type := ((Entries.get? bg "type").filter Value.isFilled).getD (.text "")
    let value ← match Entries.get? bg "value" with
      | none | some .null => .ok (.text "")
      | some value =>
        if type = .text "color" then .ok value else Value.text <$> value.toText
    return Entries.set (Entries.set params "bg-type" type) backgroundValue value
  | _ => return params

/-! ## Literals -/

/-- The text without the line end that it may end with. -/
def dropLineEnd (cs : List Char) : List Char :=
  if cs.getLast? = some '\n' then cs.dropLast else cs

/-- Digits with an optional sign and fraction; a line end may follow. -/
def isNumeral (cs : List Char) : Bool :=
  let body := dropLineEnd cs
  let unsigned := if body.head? = some '-' then body.drop 1 else body
  let whole := unsigned.takeWhile Text.isDigit
  !whole.isEmpty && match unsigned.dropWhile Text.isDigit with
    | [] => true
    | c :: fraction => c == '.' && !fraction.isEmpty && fraction.all Text.isDigit

def isHexColour : List Char → Bool
  | '#' :: digits =>
    [3, 6, 8].contains digits.length && digits.all fun c => (Text.radixDigit? 16 c).isSome
  | _ => false

def startsRgb (cs : List Char) : Bool :=
  let name := (Text.trimStart cs).map Char.toLower
  "rgb(".toList.isPrefixOf name || "rgba(".toList.isPrefixOf name

def isWord (cs : List Char) : Bool :=
  !cs.isEmpty && cs.all Char.isAlpha

/-- A background value that is a colour: hexadecimal, by its channels or by its name. -/
def isColour (cs : List Char) : Bool :=
  let body := Text.trim cs
  isHexColour body || startsRgb cs || isWord body

def inQuotes (cs : List Char) : List Char :=
  '"' :: cs ++ ['"']

/-- How the variable `name` is written when its value is the text `cs`. -/
def textLiteral (colours : List String) (name : String) (cs : List Char) : List Char :=
  if colours.contains name then cs
  else if name = backgroundValue then (if isColour cs then cs else inQuotes cs)
  else if isNumeral cs then cs
  else inQuotes cs

def literal (colours : List String) (name : String) : Value → Except TooLarge String
  | .text s =>
    .ok (.ofList (textLiteral colours name (Text.replaceAll assetRoot.toList [] s.toList)))
  | value => value.toText

/-! ## Flattening -/

/-- The name of `key` within the mapping of the given name. -/
def joinName (outer key : String) : String :=
  if outer = "" then key else outer ++ "-" ++ key

mutual

/-- The leaves of the fields by their joined names. -/
def leaves (outer : String) : List (String × Value) → List (String × Value)
  | [] => []
  | (key, value) :: rest => leavesOf (joinName outer key) value ++ leaves outer rest

def leavesOf (name : String) : Value → List (String × Value)
  | .mapping fields => leaves name fields
  | value => [(name, value)]

end

/-- The variables of the parameters, each with its literal. -/
def variablesOf (params : Params) (colours : List String) : Except TooLarge (Entries String) := do
  let source ← withBackground params
  (leaves "" source).foldlM (fun vars (name, value) => do
    let value := (Entries.get? source name).getD value
    return Entries.set vars name (← literal colours name value)) []

end PageComponent.Style
