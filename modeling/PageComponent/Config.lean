import PageComponent.Explanation
import PageComponent.Files
import PageComponent.Render.Component
import PageComponent.Text.Grouped
import PageComponent.Toml.Reader

/-!
# Configuration

The settings of a project come from a file, of which every section and every setting may be
missing, and from two variables of the environment, which override the file. A text is taken for
an integer if it spells one, and any value for a text or a switch.
-/

namespace PageComponent

structure Config where
  projectPath : String := ""
  overlayPatch : Bool := false
  /-- The delay of a live render in milliseconds. -/
  debounce : Nat := 100
  /-- The parameters that name colours; what is no text names none. -/
  colours : List Toml.Value := defaultColours.map .text
  /-- The file that was read. -/
  source : Option String := none

inductive ConfigError where
  | missingFile (path : String)
  | undecodableFile (path : String)
  | invalidToml (path : String)
  /-- A value that cannot be taken for an integer. -/
  | notInteger (key : String) (value : Toml.Value) (file : Option String)
  | negative (key : String) (file : Option String)
  | infinite (key : String)
  | sectionNotTable (name : String)
  | coloursNotList

namespace ConfigError

def context? (file : Option String) (detail : Option String) : Option Context :=
  file.map (⟨·, detail⟩)

/-- What there is to say to the user; nobody foresaw the errors that have no explanation. -/
def explanation? : ConfigError → Option Explanation
  | missingFile path => some ⟨"Config file not found", some ⟨path, none⟩⟩
  | invalidToml path => some ⟨"Invalid TOML", some ⟨path, none⟩⟩
  | notInteger key value file =>
    some ⟨key ++ " must be an integer, got " ++ value.inspect, context? file key⟩
  | negative key file => some ⟨key ++ " must not be negative", context? file key⟩
  | undecodableFile _ | infinite _ | sectionNotTable _ | coloursNotList => none

end ConfigError

namespace Config

def fileName : String := "sectionkit.toml"

def projectPathVariable : String := "SECTIONKIT_PROJECT_PATH"

def debounceVariable : String := "SECTIONKIT_DEBOUNCE_MS"

/-- The integer that a value is taken for; a binary number loses its fraction. -/
def integerOf (key : String) (file : Option String) (value : Toml.Value) :
    Except ConfigError Int :=
  let refused := .error (.notInteger key value file)
  match value with
  | .bool b => .ok (if b then 1 else 0)
  | .number (.int n) => .ok n
  | .number (.float (.infinite _)) => .error (.infinite key)
  | .number (.float x) => match x.truncate? with
    | some n => .ok n
    | none => refused
  | .text s => match Text.integer? s.toList with
    | some n => .ok n
    | none => refused
  | _ => refused

def delayOf (key : String) (file : Option String) (value : Toml.Value) :
    Except ConfigError Nat := do
  let n ← integerOf key file value
  if n < 0 then throw (.negative key file)
  return n.toNat

/-- The items of a list; a text has its characters and a table its keys for items. -/
def itemsOf : Toml.Value → Except ConfigError (List Toml.Value)
  | .list items => .ok items
  | .text s => .ok (s.toList.map fun c => .text (.singleton c))
  | .table fields => .ok (fields.map fun f => .text f.1)
  | _ => .error .coloursNotList

def sectionOf (table : Toml.Table) (name : String) : Except ConfigError Toml.Table :=
  match table.get? name with
  | none => .ok []
  | some (.table fields) => .ok fields
  | some _ => .error (.sectionNotTable name)

/-- The settings that a table holds. -/
def ofTable (table : Toml.Table) (file : Option String) : Except ConfigError Config := do
  let render ← sectionOf table "render"
  let projectPath := ((render.get? "project_path").map Toml.Value.label).getD ""
  let overlayPatch := ((render.get? "overlay_patch").map Toml.Value.isFilled).getD false
  let reactive ← sectionOf table "reactive"
  let debounce ← match reactive.get? "debounce_ms" with
    | some value => delayOf "reactive.debounce_ms" file value
    | none => .ok 100
  let styles ← sectionOf table "styles"
  let colours ← match styles.get? "color_variables" with
    | some value => itemsOf value
    | none => .ok (defaultColours.map .text)
  return { projectPath, overlayPatch, debounce, colours, source := file }

/-- The settings with those of the environment on top of them. -/
def override (c : Config) (environment : Entries String) : Except ConfigError Config := do
  let c := match environment.get? projectPathVariable with
    | some path => { c with projectPath := path }
    | none => c
  match environment.get? debounceVariable with
  | some s => return { c with debounce := ← delayOf debounceVariable none (.text s) }
  | none => return c

/-- The table in a file, none if the file is missing. -/
def readTable? (files : Files) (path : String) : Except ConfigError (Option Toml.Table) :=
  match files.read path with
  | .error .missing => .ok none
  | .error .undecodable => .error (.undecodableFile path)
  | .ok source => match Toml.read? source with
    | some table => .ok (some table)
    | none => .error (.invalidToml path)

/-- The configuration in the given file, which must then be there, or in the usual one. -/
def load (files : Files) (environment : Entries String) (path : Option String) :
    Except ConfigError Config := do
  let file := Files.normalPath (path.getD fileName)
  let config ← match ← readTable? files file, path with
    | some table, _ => ofTable table file
    | none, none => .ok {}
    | none, some _ => throw (.missingFile file)
  config.override environment

/-- The delay of a live render in seconds. -/
def debounceSeconds (c : Config) : Except TooLarge Number :=
  (Number.int c.debounce).div (.int 1000)

/-- The names of the colours. Beside a list or table no name can be looked up. -/
def colourNames? (c : Config) : Option (List String) :=
  c.colours.foldr (fun value names => match value with
    | .list _ | .table _ => none
    | .text s => names.map (s :: ·)
    | _ => names) (some [])

end Config

end PageComponent
