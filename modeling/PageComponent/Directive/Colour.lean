import PageComponent.Text.Blank
import PageComponent.Text.Digit

/-!
# Colours of overlays
-/

namespace PageComponent.Colour

/-- The six digits of a colour written with three or six. -/
def sixDigits? (cs : List Char) : Option (List Char) :=
  if cs.length = 6 then some cs
  else if cs.length = 3 then some (cs.flatMap fun c => [c, c])
  else none

/-- A colour in hexadecimal as its three channels in decimal; any other text is left as it is. -/
def channels (colour : String) : String :=
  match Text.trim colour.toList with
  | '#' :: digits =>
    match (sixDigits? digits).bind (Text.radixValue? 16) with
    | some n =>
      "rgb(" ++ toString (n / 0x10000) ++ ", " ++ toString (n / 0x100 % 0x100) ++ ", " ++
        toString (n % 0x100) ++ ")"
    | none => colour
  | _ => colour

end PageComponent.Colour
