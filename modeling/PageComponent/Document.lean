import PageComponent.Explanation
import PageComponent.Files
import PageComponent.Json.Reader
import PageComponent.Render.Component

/-!
# Stored documents

A component is stored as a markup file or as a JSON document; parameters and styles are stored in
JSON files beside it.
-/

namespace PageComponent

inductive DocumentError where
  /-- The word tells what the file was to hold. -/
  | missingFile (what path : String)
  | undecodableFile (path : String)
  | invalidJson (path : String) (line : Nat)
  | notObject (what path : String)
  | componentNotObject (path : String)
  | invalidComponent (path : String)
deriving DecidableEq

/-- What there is to say to the user; a file that is no text has no explanation. -/
def DocumentError.explanation? : DocumentError → Option Explanation
  | missingFile what path => some ⟨what ++ " file not found", some ⟨path, none⟩⟩
  | invalidJson path line => some ⟨"Invalid JSON", some ⟨path, some ("line " ++ toString line)⟩⟩
  | notObject what path => some ⟨what ++ " file must contain a JSON object", some ⟨path, none⟩⟩
  | componentNotObject path =>
    some ⟨"Component document must be a JSON object", some ⟨path, none⟩⟩
  | invalidComponent path => some ⟨"Invalid component document", some ⟨path, none⟩⟩
  | undecodableFile _ => none

namespace Files

def readDocument (files : Files) (what path : String) : Except DocumentError String :=
  (files.read path).mapError fun
    | .missing => .missingFile what (normalPath path)
    | .undecodable => .undecodableFile (normalPath path)

def decodeJson (path source : String) : Except DocumentError Value :=
  (Json.read source).mapError fun e => .invalidJson (normalPath path) (e.line source)

def readJson (files : Files) (what path : String) : Except DocumentError Value := do
  decodeJson path (← files.readDocument what path)

/-- The fields of the object in a JSON file. -/
def readObject (files : Files) (what path : String) : Except DocumentError (Entries Value) := do
  match ← files.readJson what path with
  | .mapping fields => return fields
  | _ => throw (.notObject what (normalPath path))

/-- A component in a JSON document, or with any other extension in a markup file. -/
def readComponent (files : Files) (path : String) : Except DocumentError ComponentSource := do
  let source ← files.readDocument "Component" path
  if suffix path = ".json" then
    match ← decodeJson path source with
    | .mapping fields =>
      (ComponentSource.ofFields fields).mapError fun _ => .invalidComponent (normalPath path)
    | _ => throw (.componentNotObject (normalPath path))
  else return ⟨source, none, none, none⟩

end Files

end PageComponent
