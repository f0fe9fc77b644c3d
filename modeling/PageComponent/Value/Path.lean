import PageComponent.Value.Basic

/-!
# Paths

A dotted path leads through mappings to a field. Setting it makes the mappings that are missing on
the way, in place of whatever else stands there; erasing it needs all of them.
-/

namespace PageComponent

namespace Text

/-- The stretches of a text between separators; there is always at least one. -/
def between (separator : Char) : List Char → List (List Char)
  | [] => [[]]
  | c :: cs =>
    match between separator cs with
    | part :: parts => if c = separator then [] :: part :: parts else (c :: part) :: parts
    | [] => [[c]]

end Text

/-- The keys of a dotted path. -/
def pathKeys (path : String) : List String :=
  (Text.between '.' path.toList).map .ofList

namespace Params

/-- The fields of a mapping at `key`, none if something else stands there. -/
def fieldsAt (fields : Params) (key : String) : Params :=
  match Entries.get? fields key with
  | some (.mapping inner) => inner
  | _ => []

def setKeys (fields : Params) : List String → Value → Params
  | [], _ => fields
  | [key], value => Entries.set fields key value
  | key :: keys, value => Entries.set fields key (.mapping (setKeys (fields.fieldsAt key) keys value))

def eraseKeys? (fields : Params) : List String → Option Params
  | [] => none
  | [key] => if Entries.contains fields key then some (Entries.erase fields key) else none
  | key :: keys =>
    match Entries.get? fields key with
    | some (.mapping inner) =>
      (eraseKeys? inner keys).map fun inner => Entries.set fields key (.mapping inner)
    | _ => none

def setPath (fields : Params) (path : String) (value : Value) : Params :=
  fields.setKeys (pathKeys path) value

/-- Nothing if the path leads to no field. -/
def erasePath? (fields : Params) (path : String) : Option Params :=
  fields.eraseKeys? (pathKeys path)

end Params

end PageComponent
