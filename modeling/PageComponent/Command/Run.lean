import PageComponent.Command.Request
import PageComponent.Config
import PageComponent.Document
import PageComponent.Json.Writer
import PageComponent.Schema.Document
import PageComponent.Version

/-!
# Running a command

A run reads files and variables of the environment and tells what to print and what to write. The
configuration is read before the arguments of the command.
-/

namespace PageComponent

/-- The explanation of a failed render. -/
def RenderError.explanation? : RenderError → Option Explanation
  | noRoot => some ⟨RenderError.noRoot.message, none⟩
  | tooLarge => none

namespace Command

inductive RunError where
  | usage (e : UsageError)
  | config (e : ConfigError)
  | document (e : DocumentError)
  | render (e : RenderError)
  /-- Styles to compile with a list or table among the colours. -/
  | colours

namespace RunError

def explanation? : RunError → Option Explanation
  | usage e => some ⟨e.message, none⟩
  | config e => e.explanation?
  | document e => e.explanation?
  | render e => e.explanation?
  | colours => none

def exitCode : RunError → Nat
  | usage _ => 2
  | _ => 1

/-- What is printed as the error; nothing is if it has no explanation. -/
def text (e : RunError) : String :=
  match e.explanation? with
  | some explanation => "Error: " ++ explanation.text ++ "\n"
  | none => ""

end RunError

/-- What a run prints and the files that it writes. -/
structure Output where
  printed : String := ""
  written : Entries String := []
deriving DecidableEq

structure Outcome where
  result : Except RunError Output
  notices : List Notice := []

def Outcome.failed (e : RunError) : Outcome :=
  { result := .error e }

def printedLine (s : String) : Output :=
  { printed := s ++ "\n" }

def helpText : String :=
  "Usage: sectionkit [OPTIONS] COMMAND [ARGS]...\n\nCommands:\n" ++
    "  schema    list the controls a template declares\n" ++
    "  defaults  print the default parameter set\n" ++
    "  render    render markup and scoped CSS"

/-! ## Commands -/

def schemaOf (component : ComponentSource) : Outcome :=
  let schema := Schema.ofTemplate component.template
  { result := .ok (printedLine (Json.write .unicode schema.document)), notices := schema.notices }

def defaultsOf (component : ComponentSource) : Outcome :=
  let (params, notices) := parametersOf component.template []
  { result := .ok (printedLine (Json.write .ascii (.mapping params))), notices }

/-- The options that the arguments give, and the configuration where they give none. -/
def optionsOf (config : Config) (a : Arguments) (styles : Option StyleTree) : RenderOptions where
  projectPath := (a.get? "project-path").getD config.projectPath
  styles := styles
  cid := (a.get? "cid").bind fun s => RenderOptions.scopeId? (.text s)
  anchor := a.get? "anchor"
  overlayPatch := ((a.get? "overlay").map (· == "on")).getD config.overlayPatch

/-- The output as a document, or as JSON. -/
def outputText (a : Arguments) (out : RenderedOutput) : String :=
  if a.isSet "json" then
    Json.write .unicode (.mapping [("html", .text out.html), ("css", .text out.css)])
  else out.document

/-- A text goes to the file that is asked for, else it is printed. -/
def deliver (a : Arguments) (s : String) : Output :=
  match a.get? "output" with
  | some path => { written := [(Files.normalPath path, s ++ "\n")] }
  | none => printedLine s

/-- Renders with the colours of a configuration. Styles cannot be compiled if one is no name, but
a component without styles is rendered all the same. -/
def renderWith (config : Config) (component : ComponentSource) (overrides : Params)
    (options : RenderOptions) : List Notice × Except RunError (RenderedOutput × List Notice) :=
  let options := component.complete options
  let render (options : RenderOptions) (colours : List String) :=
    let (notices, result) := { component with styles := none }.render overrides options colours
    (notices, result.mapError RunError.render)
  match config.colourNames?, Style.isNeeded options.styles options.cid with
  | some colours, _ => render options colours
  | none, false => render options []
  | none, true =>
    let (notices, result) := render { options with styles := none } []
    (notices, result.bind fun _ => .error .colours)

def renderOf (files : Files) (config : Config) (component : ComponentSource) (a : Arguments) :
    Outcome :=
  let read (key what : String) : Except RunError (Option (Entries Value)) :=
    match a.get? key with
    | some path => ((files.readObject what path).mapError .document).map some
    | none => .ok none
  let inputs : Except RunError (Params × Option StyleTree) := do
    let overrides ← read "params" "Parameters"
    return (overrides.getD [], ← read "styles" "Styles")
  match inputs with
  | .error e => .failed e
  | .ok (overrides, styles) =>
    let (notices, result) := renderWith config component overrides (optionsOf config a styles)
    match result with
    | .error e => { result := .error e, notices }
    | .ok (out, more) =>
      { result := .ok (deliver a (outputText a out)), notices := notices ++ more }

def runCommand (files : Files) (config : Config) (name : CommandName) (args : List String) :
    Outcome :=
  match name.read args with
  | .error e => .failed (.usage e)
  | .ok none => { result := .ok (printedLine helpText) }
  | .ok (some (template, a)) =>
    match files.readComponent template with
    | .error e => .failed (.document e)
    | .ok component =>
      match name with
      | .schema => schemaOf component
      | .defaults => defaultsOf component
      | .render => renderOf files config component a

def run (files : Files) (environment : Entries String) (args : List String) : Outcome :=
  match Request.ofArguments args with
  | .error e => .failed (.usage e)
  | .ok .version => { result := .ok (printedLine ("sectionkit " ++ version)) }
  | .ok .help => { result := .ok (printedLine helpText) }
  | .ok (.command path name args) =>
    match Config.load files environment path with
    | .error e => .failed (.config e)
    | .ok config => runCommand files config name args

/-- The files that a run may read. -/
def inputs (args : List String) : List String :=
  match Request.ofArguments args with
  | .ok (.command path name args) =>
    path.getD Config.fileName :: match name.read args with
      | .ok (some (template, a)) =>
        template :: (a.get? "params").toList ++ (a.get? "styles").toList
      | _ => []
  | _ => []

end Command

end PageComponent
