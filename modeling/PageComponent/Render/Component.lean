import PageComponent.Directive.Pass
import PageComponent.Markup.Printer
import PageComponent.Schema.Defaults
import PageComponent.Style.Compile

/-!
# Rendering

A component is rendered to the markup of its root, the first top-level element, and to a style
sheet that is scoped to it. A root that its own condition removes leaves no markup.
-/

namespace PageComponent

structure RenderedOutput where
  html : String
  css : String
deriving DecidableEq

inductive RenderError where
  | noRoot
  /-- A number too large to be shown or tested. -/
  | tooLarge
deriving DecidableEq

instance : MonadLift (Except TooLarge) (Except RenderError) where
  monadLift x := x.mapError fun _ => .tooLarge

def RenderError.message : RenderError → String
  | noRoot => "Template has no top-level element"
  | tooLarge => "Number too large"

namespace RenderedOutput

/-- The markup with the style sheet, if there is one, in front of it. -/
def document (out : RenderedOutput) : String :=
  if out.css = "" then out.html else "<style>" ++ out.css ++ "</style>\n" ++ out.html

end RenderedOutput

/-- Parameters that name colours. -/
def defaultColours : List String :=
  ["hamburgerColor", "menuBgColor", "overlayColor", "cardColor", "tColor", "bgColor"]

def printRoot (nodes : List Node) : String :=
  match Node.root? nodes with
  | some root => root.print
  | none => ""

def render (template : String) (params : Params) (options : RenderOptions)
    (colours : List String) : Except RenderError (RenderedOutput × List Notice) := do
  let ctx : RenderContext := ⟨params, options⟩
  let nodes ← Pass.dropDeclarations.run ctx (Node.ofSource template)
  if (Node.root? nodes).isNone then throw .noRoot
  let nodes ← Pass.runAll (Pass.all.drop 1) ctx nodes
  let (css, notices) ← Style.compile options.styles params options.cid colours
  return (⟨printRoot nodes, css⟩, notices)

/-! ## Stored components -/

/-- A component as it is stored, with its styles and its scope id. -/
structure ComponentSource where
  template : String
  styles : Option StyleTree
  cid : Option String
  name : Option String

/-- The field of a stored component that has a value of the wrong type. -/
inductive ComponentFault where
  | template
  | styles
  | name
deriving DecidableEq

namespace ComponentSource

/-- A field under its stored name, else under its plain one. -/
def field? (fields : Entries Value) (stored plain : String) : Option Value :=
  (Entries.get? fields stored).or (Entries.get? fields plain)

/-- The component that the fields describe; only the template must be there. -/
def ofFields (fields : Entries Value) : Except ComponentFault ComponentSource := do
  let template ← match field? fields "_customHTML" "custom_html" with
    | some (.text s) => .ok s
    | _ => .error .template
  let styles ← match RenderOptions.optionalTree? ((field? fields "_styles" "styles").getD .null) with
    | some styles => .ok styles
    | none => .error .styles
  let name ← match RenderOptions.optionalText? ((field? fields "_name" "name").getD .null) with
    | some name => .ok name
    | none => .error .name
  return ⟨template, styles, (field? fields "_cid" "cid").bind RenderOptions.scopeId?, name⟩

/-- The options with the component's own styles and scope id where they have none. -/
def complete (c : ComponentSource) (options : RenderOptions) : RenderOptions :=
  { options with styles := options.styles.or c.styles, cid := options.cid.or c.cid }

/-- Renders a component with its declared parameters and overrides on top of them. The notices of
the declaration come even if rendering fails. -/
def render (c : ComponentSource) (overrides : Params) (options : RenderOptions)
    (colours : List String) : List Notice × Except RenderError (RenderedOutput × List Notice) :=
  let (params, notices) := parametersOf c.template overrides
  (notices, PageComponent.render c.template params (c.complete options) colours)

end ComponentSource

end PageComponent
