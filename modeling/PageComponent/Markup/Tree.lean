import PageComponent.Markup.Event
import PageComponent.Markup.Nesting

/-!
# Markup trees

Events make a tree by way of the elements that are open, innermost first. Texts that follow one
another are one text; one of spaces only shrinks to a line end if it holds one and else to a single
space, except within preformatted text. The end of the source ends every element.
-/

namespace PageComponent

/-- An open element and its children so far, the last one first. -/
structure OpenElement where
  tag : Tag
  children : List Node

structure TreeBuilder where
  /-- Innermost first. -/
  stack : List OpenElement
  /-- The top-level nodes so far, the last one first. -/
  nodes : List Node
  /-- The text since the last node, if there is any. -/
  pending : Option String
  /-- Elements without content whose end tag may still follow. -/
  awaited : List String

namespace TreeBuilder

def empty : TreeBuilder :=
  ⟨[], [], none, []⟩

def isSpace (c : Char) : Bool :=
  [' ', '\n', '\t', '\x0c', '\r'].contains c

def keepsSpace (name : String) : Bool :=
  name == "pre" || name == "textarea"

/-- The text as it is kept: spaces alone shrink to one. -/
def shrink (b : TreeBuilder) (content : String) : String :=
  if content.toList.all isSpace && !b.stack.any (keepsSpace ·.tag.name) then
    if content.toList.contains '\n' then "\n" else " "
  else content

/-- Adds a node to the innermost open element. -/
def add (b : TreeBuilder) (node : Node) : TreeBuilder :=
  match b.stack with
  | [] => { b with nodes := node :: b.nodes }
  | e :: stack => { b with stack := { e with children := node :: e.children } :: stack }

/-- Makes the pending text a node. -/
def flush (b : TreeBuilder) : TreeBuilder :=
  match b.pending with
  | some content => { b with pending := none }.add (.text (b.shrink content))
  | none => b

/-- Ends the innermost open element. -/
def close (b : TreeBuilder) : TreeBuilder :=
  match b.stack with
  | [] => b
  | e :: stack => { b with stack }.add (.element e.tag e.children.reverse)

def closeMany : Nat → TreeBuilder → TreeBuilder
  | 0, b => b
  | n + 1, b => closeMany n b.close

/-- Ends the innermost element of the given name and all within it, if no weight forbids. -/
def closeNamed (rules : NestingRules) (b : TreeBuilder) (name : String) : TreeBuilder :=
  let inner := b.stack.takeWhile (·.tag.name ≠ name)
  if inner.length < b.stack.length ∧ inner.all (rules.weight ·.tag.name ≤ rules.weight name) then
    closeMany (inner.length + 1) b
  else b

def endTag (rules : NestingRules) (b : TreeBuilder) (name : String) : TreeBuilder :=
  if b.awaited.contains name then { b with awaited := b.awaited.erase name }
  else closeNamed rules b.flush name

def attributesOf (rules : NestingRules) (pairs : List (String × String)) : Entries String :=
  if rules.lastValue then Entries.ofPairs pairs
  else pairs.foldl (fun es e => if Entries.contains es e.1 then es else Entries.set es e.1 e.2) []

def startTag (rules : NestingRules) (b : TreeBuilder) (tag : StartTag) : TreeBuilder :=
  if rules.ignores tag.name then b
  else
    let b := b.flush
    let ended := (b.stack.takeWhile (rules.closes tag.name ·.tag.name)).length
    let b := closeMany ended b
    let b := { b with
      stack := ⟨⟨tag.name, attributesOf rules tag.attributes⟩, []⟩ :: b.stack }
    if tag.selfClosing then endTag rules b tag.name
    else if rules.isVoid tag.name then
      { b.close with awaited := if rules.awaitsEnd then b.awaited ++ [tag.name] else b.awaited }
    else b

def step (rules : NestingRules) (b : TreeBuilder) : Event → TreeBuilder
  | .startTag tag => startTag rules b tag
  | .endTag name => endTag rules b name
  | .text content => { b with pending := some (b.pending.getD "" ++ content) }
  | .verbatim kind content =>
    let b := b.flush
    b.add (.verbatim kind (b.shrink content))

/-- The top-level nodes when everything open is ended. -/
def finish (b : TreeBuilder) : List Node :=
  let b := b.flush
  (closeMany b.stack.length b).nodes.reverse

end TreeBuilder

namespace Node

def ofEvents (rules : NestingRules) (events : List Event) : List Node :=
  (events.foldl (TreeBuilder.step rules) .empty).finish

/-- The nodes of a source as its author nested them. -/
def ofSource (source : String) : List Node :=
  ofEvents .authored (Event.ofSource source)

/-- The nodes of a source whose declarations may leave out end tags. -/
def ofDeclarations (source : String) : List Node :=
  ofEvents .declared (Event.ofSource source)

end Node

end PageComponent
