import PageComponent.Directive.Body
import PageComponent.Directive.Colour
import PageComponent.Directive.Substitution
import PageComponent.Directive.TagStyle
import PageComponent.Render.Options
import PageComponent.Schema.Declaration
import PageComponent.Text.Replace

/-!
# Passes

A component goes through passes, each of which sees what the ones before it have done. A pass
decides for every tag what becomes of it or that its element is dropped; it never adds, moves or
renames an element. The only failure is a number too large to be shown or tested.
-/

namespace PageComponent

/-- What a pass may read. -/
structure RenderContext where
  params : Params
  options : RenderOptions

inductive Pass where
  | dropDeclarations
  | assetPaths
  | tokens
  | conditions
  | classes
  | styles
  | themeStyles
  | scope
  | overlays
deriving DecidableEq

namespace Pass

def all : List Pass :=
  [dropDeclarations, assetPaths, tokens, conditions, classes, styles, themeStyles, scope, overlays]

def pathAttributes : List String :=
  ["src", "href", "data-src", "data-bg", "data-poster"]

/-! ## Tags -/

def dropDeclaration (tag : Tag) : Option Tag :=
  if tag.isDeclaration then none else some tag

/-- The project path as a folder, which ends in a slash unless it is empty. -/
def folder (path : String) : String :=
  if path = "" ∨ path.toList.getLast? = some '/' then path else path ++ "/"

def resolvePath (path value : String) : String :=
  if assetRoot.toList.isPrefixOf value.toList then
    .ofList (Text.replaceAll assetRoot.toList (folder path).toList value.toList)
  else value

def resolvePaths (path : String) (tag : Tag) : Tag :=
  { tag with attributes := tag.attributes.map fun (key, value) =>
      (key, if pathAttributes.contains key then resolvePath path value else value) }

def substituteTag (params : Params) (tag : Tag) : Except TooLarge Tag := do
  let attributes ← tag.attributes.mapM fun (key, value) =>
    return (key, ← substitute params value)
  return { tag with attributes }

def applyCondition (params : Params) (tag : Tag) : Except TooLarge (Option Tag) := do
  match tag.get? "mbr-if" with
  | none => return some tag
  | some condition =>
    if ← Expr.holds params condition then return some (tag.erase "mbr-if") else return none

def applyPair (params : Params) (tag : Tag) (pair : ClassPair) : Except TooLarge Tag := do
  if ← Expr.holds params pair.condition then return tag.addClasses pair.names
  else return tag.removeClasses pair.names

def applyClasses (params : Params) (tag : Tag) : Except TooLarge Tag := do
  match tag.get? "mbr-class" with
  | none => return tag
  | some body =>
    return (← (ClassPair.ofBody body).foldlM (applyPair params) tag).erase "mbr-class"

/-- The declaration that an entry of a style directive makes; one without a value makes none. -/
def declaration? (params : Params) (entry : String × Value) : Except TooLarge (Option String) := do
  let value := match entry.2 with
    | .text source => Expr.valueOf params source
    | value => value
  if value.isNullish ∨ value = .text "" then return none
  return some (entry.1 ++ ": " ++ (← value.display))

def applyStyles (params : Params) (tag : Tag) : Except TooLarge Tag := do
  match tag.get? "mbr-style" with
  | none => return tag
  | some body =>
    let declarations := (← (StyleMap.ofBody body).mapM (declaration? params)).filterMap id
    let styled := if declarations = [] then tag else tag.appendStyle declarations false
    return styled.erase "mbr-style"

def applyThemeStyle (tag : Tag) : Tag :=
  match tag.get? "mbr-theme-style" with
  | none => tag
  | some names => (if names = "" then tag else tag.addClasses names).erase "mbr-theme-style"

/-- The class and the id of the root, if it is a section. -/
def applyScope (options : RenderOptions) (tag : Tag) : Tag :=
  if tag.name = "section" then
    let tag := tag.addClasses ("cid-" ++ options.cid.getD "")
    match options.anchor with
    | some anchor => if anchor = "" then tag else tag.set "id" anchor
    | none => tag
  else tag

def applyOverlay (tag : Tag) : Tag :=
  let opacity := (tag.filled? "opacity").map ("opacity: " ++ ·)
  let colour := (tag.filled? "bg-color").map ("background-color: " ++ Colour.channels ·)
  let declarations := opacity.toList ++ colour.toList
  if tag.classes.contains "mbr-overlay" ∧ declarations ≠ [] then
    ((tag.appendStyle declarations true).erase "opacity").erase "bg-color"
  else tag

/-! ## Trees -/

def onTags (f : Tag → Except TooLarge (Option Tag)) (nodes : List Node) :
    Except TooLarge (List Node) :=
  Node.transformAll f .ok nodes

/-- Changes the tag of the first top-level element. -/
def onRoot (f : Tag → Tag) : List Node → List Node
  | [] => []
  | .element tag children :: nodes => .element (f tag) children :: nodes
  | node :: nodes => node :: onRoot f nodes

def run (pass : Pass) (ctx : RenderContext) (nodes : List Node) : Except TooLarge (List Node) :=
  match pass with
  | dropDeclarations => onTags (fun tag => .ok (dropDeclaration tag)) nodes
  | assetPaths => onTags (fun tag => .ok (resolvePaths ctx.options.projectPath tag)) nodes
  | tokens =>
    Node.transformAll (fun tag => some <$> substituteTag ctx.params tag) (substitute ctx.params) nodes
  | conditions => onTags (applyCondition ctx.params) nodes
  | classes => onTags (fun tag => some <$> applyClasses ctx.params tag) nodes
  | styles => onTags (fun tag => some <$> applyStyles ctx.params tag) nodes
  | themeStyles => onTags (fun tag => .ok (applyThemeStyle tag)) nodes
  | scope =>
    .ok (if ctx.options.cid.getD "" = "" then nodes else onRoot (applyScope ctx.options) nodes)
  | overlays =>
    if ctx.options.overlayPatch then onTags (fun tag => .ok (applyOverlay tag)) nodes
    else .ok nodes

def runAll (passes : List Pass) (ctx : RenderContext) (nodes : List Node) :
    Except TooLarge (List Node) :=
  passes.foldlM (fun nodes pass => pass.run ctx nodes) nodes

end Pass

end PageComponent
