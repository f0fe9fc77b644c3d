import PageComponent.Schema.Control

/-!
# Schemas as documents

The controls of a schema written out as a value. What a control does not have is left out.
-/

namespace PageComponent

def textField (name : String) (s : Option String) : Entries Value :=
  match s with
  | some s => [(name, .text s)]
  | none => []

def switchField (name : String) (b : Option Bool) : Entries Value :=
  match b with
  | some b => [(name, .bool b)]
  | none => []

def ControlAttributes.fields (a : ControlAttributes) : Entries Value :=
  textField "condition" a.condition ++ textField "min" a.min ++ textField "max" a.max ++
    textField "step" a.step ++ switchField "inline" a.inline ++
    switchField "selected" a.selected ++ switchField "checked" a.checked ++
    switchField "parallax" a.parallax

/-- A control with the choices that it offers. -/
def Field.document (f : Field) (choices : List Value) : Value :=
  .mapping (("kind", .text f.kind) :: textField "name" f.name ++ textField "title" f.title ++
    textField "value" f.value ++
    [("attrs", .mapping f.attributes.fields), ("options", .list choices)])

def Choice.document : Choice → Value
  | option label value selected =>
    .mapping [("label", .text label), ("value", .text value), ("selected", .bool selected)]
  | input field => field.document []

def Control.document (c : Control) : Value :=
  c.field.document (c.choices.map Choice.document)

def Schema.document (s : Schema) : Value :=
  .mapping [("controls", .list (s.controls.map Control.document)), ("found", .bool s.found),
    ("count", Value.int s.controls.length)]

end PageComponent
