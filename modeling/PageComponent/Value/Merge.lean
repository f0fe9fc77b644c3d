import PageComponent.Value.Basic

/-!
# Merging

Where both sides are mappings they are merged field by field; anything else is replaced.
-/

namespace PageComponent

namespace Value

mutual

def merge (current : Option Value) : Value → Value
  | .mapping fields =>
    match current with
    | some (.mapping base) => .mapping (mergeFields base fields)
    | _ => .mapping fields
  | value => value

def mergeFields (base : Entries Value) : List (String × Value) → Entries Value
  | [] => base
  | (key, value) :: rest =>
    mergeFields (Entries.set base key (merge (Entries.get? base key) value)) rest

end

end Value

namespace Params

/-- The defaults with overrides on top of them. -/
def merge (defaults overrides : Params) : Params :=
  Value.mergeFields defaults overrides

end Params

end PageComponent
