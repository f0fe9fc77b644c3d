import PageComponent.Markup.Tree
import PageComponent.Notice
import PageComponent.Schema.Control
import PageComponent.Text.Blank
import PageComponent.Text.Lowercase

/-!
# Declarations

The controls of a template are the children of its first declaration block, in their order. Of
controls with one name only the first is kept.
-/

namespace PageComponent

def declarationName : String := "mbr-parameters"

namespace Tag

def isDeclaration (tag : Tag) : Bool :=
  tag.name == declarationName

/-- The value of an attribute that is not empty. -/
def filled? (tag : Tag) (key : String) : Option String :=
  (tag.get? key).filter (· ≠ "")

def flag (tag : Tag) (key : String) : Bool :=
  match tag.get? key with
  | some value => (Value.text value).isFlag
  | none => false

def inputKind (tag : Tag) : String :=
  lowered ((tag.filled? "type").getD "text")

end Tag

namespace Control

def ofHeader (tag : Tag) (content : String) : Control where
  field :=
    { kind := "header", title := some (trimmed content)
      attributes := { condition := tag.filled? "condition" } }
  choices := []

def ofInput (tag : Tag) : Control where
  field :=
    { kind := tag.inputKind, name := tag.filled? "name", title := tag.filled? "title"
      value := tag.get? "value"
      attributes :=
        { condition := tag.filled? "condition", min := tag.filled? "min", max := tag.filled? "max"
          step := tag.filled? "step", inline := some (tag.flag "inline")
          selected := some (tag.flag "selected"), checked := some (tag.flag "checked") } }
  choices := []

/-- An option without a value has its label for one. -/
def optionOf? : Node → Option Choice
  | .element tag children =>
    if tag.name = "option" then
      let label := trimmed (Node.textContents children)
      some (.option label ((tag.get? "value").getD label) (tag.flag "selected"))
    else none
  | _ => none

def ofSelect (tag : Tag) (children : List Node) : Control :=
  let choices := children.filterMap optionOf?
  let control : Control :=
    { field := { kind := "select", name := tag.filled? "name", title := tag.filled? "title" }
      choices }
  { control with field.value := control.chosen?.bind Choice.value? }

def inputOf? : Node → Option Choice
  | .element tag _ =>
    if tag.name = "input" then
      some (.input
        { kind := tag.inputKind, name := tag.filled? "name", title := tag.filled? "title"
          value := tag.get? "value"
          attributes :=
            { selected := some (tag.flag "selected"), condition := tag.filled? "condition" } })
    else none
  | _ => none

def ofFieldset (tag : Tag) (children : List Node) : Control where
  field :=
    { kind := lowered ((tag.filled? "type").getD "fieldset"), name := tag.filled? "name"
      title := tag.filled? "name", attributes := { parallax := some (tag.flag "parallax") } }
  choices := children.filterMap inputOf?

/-- Other elements than these declare nothing. -/
def ofNode? : Node → Option Control
  | .element tag children =>
    if tag.name = "header" then some (ofHeader tag (Node.textContents children))
    else if tag.name = "input" then some (ofInput tag)
    else if tag.name = "select" then some (ofSelect tag children)
    else if tag.name = "fieldset" then some (ofFieldset tag children)
    else none
  | _ => none

end Control

namespace Schema

def empty : Schema :=
  ⟨[], false, []⟩

/-- Keeps the first control of each name. -/
def ofControls (controls : List Control) : Schema :=
  let rec keep (seen : List String) : List Control → List Control × List String
    | [] => ([], [])
    | c :: cs =>
      match c.name? with
      | some name =>
        if seen.contains name then
          let (kept, repeated) := keep seen cs
          (kept, name :: repeated)
        else
          let (kept, repeated) := keep (name :: seen) cs
          (c :: kept, repeated)
      | none =>
        let (kept, repeated) := keep seen cs
        (c :: kept, repeated)
  let (kept, repeated) := keep [] controls
  ⟨kept, true, repeated⟩

def ofNodes (nodes : List Node) : Schema :=
  match Node.findAmong? Tag.isDeclaration nodes with
  | some block => ofControls (block.children.filterMap Control.ofNode?)
  | none => empty

def ofTemplate (template : String) : Schema :=
  ofNodes (Node.ofDeclarations template)

def notices (s : Schema) : List Notice :=
  s.repeated.map .repeatedParameter

end Schema

end PageComponent
