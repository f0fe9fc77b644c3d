import PageComponent.Value.Basic

/-!
# Controls

A declaration lists the controls by which a user edits the parameters of a component.
-/

namespace PageComponent

/-- Attributes that not every control has. -/
structure ControlAttributes where
  condition : Option String := none
  min : Option String := none
  max : Option String := none
  step : Option String := none
  inline : Option Bool := none
  selected : Option Bool := none
  checked : Option Bool := none
  parallax : Option Bool := none
deriving DecidableEq

/-- What a control has besides the choices it offers. -/
structure Field where
  kind : String
  name : Option String := none
  title : Option String := none
  value : Option String := none
  attributes : ControlAttributes := {}
deriving DecidableEq

/-- A choice is an option of a selection or an input of a field set. -/
inductive Choice where
  | option (label value : String) (selected : Bool)
  | input (field : Field)
deriving DecidableEq

structure Control where
  field : Field
  choices : List Choice
deriving DecidableEq

namespace Choice

def isSelected : Choice → Bool
  | option _ _ selected => selected
  | input field => field.attributes.selected.getD false

def value? : Choice → Option String
  | option _ value _ => some value
  | input field => field.value

end Choice

namespace Control

def name? (c : Control) : Option String :=
  c.field.name

/-- The first selected choice, or the first one if none is selected. -/
def chosen? (c : Control) : Option Choice :=
  (c.choices.find? Choice.isSelected).or c.choices.head?

end Control

/-- The controls of a declaration; each name belongs to one of them. -/
structure Schema where
  controls : List Control
  /-- Whether the template has a declaration. -/
  found : Bool
  /-- Names of controls left out because an earlier one has the name. -/
  repeated : List String

namespace Schema

def names (s : Schema) : List String :=
  s.controls.filterMap Control.name?

def get? (s : Schema) (name : String) : Option Control :=
  s.controls.find? fun c => c.name? == some name

end Schema

namespace Value

/-- The sense of an attribute: any text but `false` switches it on, even the empty one. -/
def isFlag : Value → Bool
  | .text s => s != "false"
  | v => v.isFilled

end Value

end PageComponent
