import PageComponent.Schema.Declaration
import PageComponent.Value.Conversion
import PageComponent.Value.Merge

/-!
# Default parameters

Every named control of a kind that has values gives a parameter its first value.
-/

namespace PageComponent

namespace Control

def optionalText (s : Option String) : Value :=
  match s with
  | some s => .text s
  | none => .null

/-- The number of a range: its value if it has one, else its minimum, else zero. -/
def rangeValue (field : Field) : Value :=
  match (field.value.filter (· ≠ "")).or (field.attributes.min.filter (· ≠ "")) with
  | some s => .number (Text.toNumber s.toList)
  | none => Value.int 0

/-- A background is given by its chosen input; without inputs it has no value. -/
def background? (c : Control) : Option Value :=
  match c.chosen? with
  | some (.input field) =>
    some (.mapping [("type", .text field.kind), ("value", optionalText field.value),
      ("parallax", .bool (c.field.attributes.parallax.getD false))])
  | _ => none

/-- Whether a control is a background that offers nothing. -/
def isEmptyBackground (c : Control) : Bool :=
  c.field.kind == "background" && c.background?.isNone

def default? (c : Control) : Option Value :=
  match c.field.kind with
  | "checkbox" => some (.bool (c.field.attributes.checked.getD false))
  | "range" => some (rangeValue c.field)
  | "color" => some (optionalText c.field.value)
  | "image" | "video" => some (.text (c.field.value.getD ""))
  | "background" => c.background?
  | "select" => some (optionalText (c.chosen?.bind Choice.value?))
  | _ => none

end Control

namespace Schema

def defaults (s : Schema) : Params :=
  s.controls.filterMap fun c => c.name?.bind fun name => c.default?.map (name, ·)

def defaultNotices (s : Schema) : List Notice :=
  s.controls.filterMap fun c =>
    c.name?.bind fun name => if c.isEmptyBackground then some (.emptyBackground name) else none

end Schema

/-- The parameters that a template declares, with stored ones on top, and what there is to say
about the declaration. -/
def parametersOf (template : String) (overrides : Params) : Params × List Notice :=
  let schema := Schema.ofTemplate template
  (schema.defaults.merge overrides, schema.notices ++ schema.defaultNotices)

end PageComponent
