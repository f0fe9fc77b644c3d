import PageComponent.Markup.Printer
import PageComponent.Schema.Declaration
import PageComponent.Value.Conversion

/-!
# Edits

An edited value is written back into the declaration of a template. The parts of a background are
addressed by its name, a dot and the part: the type belongs to the background itself, another part
to an input of that name, of that type within it, or of that type anywhere.
-/

namespace PageComponent

/-- Where in a declaration an edit goes. -/
inductive Address where
  | named (name : String)
  | inputOf (owner type : String)
  | input (type : String)
deriving DecidableEq

namespace Tag

def isNamed (name : String) (tag : Tag) : Bool :=
  tag.get? "name" == some name

def isInputOfType (type : String) (tag : Tag) : Bool :=
  tag.name == "input" && tag.get? "type" == some type

end Tag

namespace Address

/-- The addresses of a parameter, of which the first that leads somewhere counts. -/
def ofName (name : String) : List Address :=
  let head := String.ofList (name.toList.takeWhile (· != '.'))
  let key := String.ofList ((name.toList.dropWhile (· != '.')).drop 1)
  if key = "type" then [.named head]
  else if key = "" then [.named name]
  else [.named name, .inputOf head key, .input key]

/-- The block with the addressed tag changed, if there is one. -/
def modify? (f : Tag → Tag) (block : Node) : Address → Option Node
  | named name => block.modifyWithin? (Tag.isNamed name) (Node.mapTag f)
  | inputOf owner type => do
    let element ← block.findWithin? (Tag.isNamed owner)
    let element ← element.modifyWithin? (Tag.isInputOfType type) (Node.mapTag f)
    block.modifyWithin? (Tag.isNamed owner) fun _ => element
  | input type => block.modifyWithin? (Tag.isInputOfType type) (Node.mapTag f)

/-- The type of a background is its value whatever the kind of the edit. -/
def isType (name : String) : Bool :=
  (name.toList.dropWhile (· != '.')).drop 1 == "type".toList

end Address

structure Edit where
  name : String
  value : Value
  /-- The kind of the control that the value comes from. -/
  kind : Option String
deriving DecidableEq

namespace Edit

/-- A checkbox is checked or not, a colour is written twice, and any other value once. -/
def write (e : Edit) : Except TooLarge (Tag → Tag) := do
  if e.kind = some "checkbox" ∧ !Address.isType e.name then
    return if e.value.isFilled then (·.set "checked" "checked") else (·.erase "checked")
  let text ← e.value.display
  if e.kind = some "color" ∧ !Address.isType e.name then
    return fun tag => (tag.set "value" text).set "color" text
  else return (·.set "value" text)

/-- The edited template, none if the edit leads nowhere. -/
def update? (e : Edit) (template : String) : Except TooLarge (Option String) := do
  let nodes := Node.ofSource template
  match Node.findAmong? Tag.isDeclaration nodes with
  | none => return none
  | some block =>
    let addresses := Address.ofName e.name
    if (addresses.findSome? (Address.modify? id block)).isNone then return none
    let f ← e.write
    return do
      let block ← addresses.findSome? (Address.modify? f block)
      let nodes ← Node.modifyAmong? Tag.isDeclaration (fun _ => block) nodes
      return Node.printAll nodes

end Edit

end PageComponent
