import PageComponent.Value.Inspect

/-!
# Render options
-/

namespace PageComponent

/-- Stands for the asset root in the paths of a template and of its parameters. -/
def assetRoot : String := "@PROJECT_PATH@/"

/-- Property names to values or to trees of the same kind. -/
abbrev StyleTree := Entries Value

structure RenderOptions where
  /-- Takes the place of the asset root in paths. -/
  projectPath : String := ""
  styles : Option StyleTree := none
  /-- The id that scopes the styles and marks the root section. -/
  cid : Option String := none
  /-- The id of the root section. -/
  anchor : Option String := none
  /-- Whether opacity and colour attributes of overlays become styles. -/
  overlayPatch : Bool := false

/-- The option that has a value of the wrong type. -/
inductive OptionFault where
  | projectPath
  | styles
  | anchor
  | overlayPatch
deriving DecidableEq

namespace RenderOptions

/-- A scope id; null and the empty text are none. -/
def scopeId? : Value → Option String
  | .null | .text "" => none
  | v => some v.label

/-- A text, null being none. -/
def optionalText? : Value → Option (Option String)
  | .null => some none
  | .text s => some (some s)
  | _ => none

/-- A mapping, null being none. -/
def optionalTree? : Value → Option (Option StyleTree)
  | .null => some none
  | .mapping fields => some (some fields)
  | _ => none

def trueWords : List String :=
  ["1", "on", "t", "true", "y", "yes"]

def falseWords : List String :=
  ["0", "off", "f", "false", "n", "no"]

/-- Besides the booleans, one and zero and some words for them are switches. -/
def switch? : Value → Option Bool
  | .bool b => some b
  | .number n =>
    if n.equal (.int 0) then some false else if n.equal (.int 1) then some true else none
  | .text s =>
    let word := s.map Char.toLower
    if trueWords.contains word then some true
    else if falseWords.contains word then some false
    else none
  | _ => none

/-- The options that the fields give; fields with other names are ignored. -/
def ofFields (fields : Entries Value) : Except OptionFault RenderOptions := do
  let read {α : Type} (key : String) (start : α) (fault : OptionFault) (value? : Value → Option α) :
      Except OptionFault α :=
    match Entries.get? fields key with
    | none => .ok start
    | some v => match value? v with
      | some a => .ok a
      | none => .error fault
  return {
    projectPath := ← read "project_path" "" .projectPath fun
      | .text s => some s
      | _ => none
    styles := ← read "styles" none .styles optionalTree?
    cid := (Entries.get? fields "cid").bind scopeId?
    anchor := ← read "anchor" none .anchor optionalText?
    overlayPatch := ← read "overlay_patch" false .overlayPatch switch? }

end RenderOptions

end PageComponent
