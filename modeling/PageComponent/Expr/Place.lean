import PageComponent.Value.Basic

/-!
# Places

Lists and mappings are compared by identity: two of them are the same object if they stand at the
same place of the parameters. A value that an expression computes stands at no place.
-/

namespace PageComponent

inductive Step where
  | key (name : String)
  | index (i : Nat)
deriving DecidableEq

structure Place where
  parameter : String
  steps : List Step
deriving DecidableEq

structure Located where
  value : Value
  place : Option Place

namespace Place

def child (p : Place) (step : Step) : Place :=
  ⟨p.parameter, p.steps ++ [step]⟩

/-- The value that `step` leads to, if there is one. -/
def follow? : Value → Step → Option Value
  | .mapping fields, .key name => Entries.get? fields name
  | .list items, .index i => items[i]?
  | _, _ => none

def get? (p : Place) (params : Params) : Option Value := do
  p.steps.foldlM follow? (← Entries.get? params p.parameter)

end Place

namespace Located

def computed (value : Value) : Located :=
  ⟨value, none⟩

def undefined : Located :=
  computed .undefined

/-- What stands at `step` of a located value. -/
def child (target : Located) (step : Step) (value : Value) : Located :=
  ⟨value, target.place.map (·.child step)⟩

def ofParameter (params : Params) (name : String) : Located :=
  match Entries.get? params name with
  | some value => ⟨value, some ⟨name, []⟩⟩
  | none => undefined

def sameObject (a b : Located) : Bool :=
  a.place.isSome && a.place == b.place

end Located

end PageComponent
