import PageComponent.Toml.Value

/-!
# Building tables

A document fills nested tables statement by statement. A header opens a table once; a dotted key
opens the tables on its way for the rest of its section. What is written as a value never grows,
even if it is a table or a list.
-/

namespace PageComponent.Toml

/-- A dotted key: the tables on its way and its last name. -/
structure Key where
  parents : List String
  name : String
deriving DecidableEq

/-- How a table came to be. -/
inductive Opening where
  /-- As a table on the way of a header. -/
  | passing
  /-- As a table on the way of a dotted key in the section of this number. -/
  | dotted (opened : Nat)
  | header
deriving DecidableEq

inductive Entry where
  | value (v : Value)
  | table (opening : Opening) (fields : List (String × Entry))
  /-- A list of tables that headers opened; only the last one still grows. -/
  | tables (closed : List Value) (last : List (String × Entry))

abbrev Fields := Entries Entry

namespace Opening

/-- Whether a dotted key of the given section may lead through the table. -/
def admits (current : Nat) : Opening → Bool
  | passing => true
  | dotted opened => opened == current
  | header => false

end Opening

namespace Entry

mutual

def toValue : Entry → Value
  | .value v => v
  | .table _ fields => .table (fieldValues fields)
  | .tables closed last => .list (closed ++ [.table (fieldValues last)])

def fieldValues : List (String × Entry) → List (String × Value)
  | [] => []
  | (key, entry) :: rest => (key, entry.toValue) :: fieldValues rest

end

end Entry

namespace Fields

/-- Gives a new name a value, below the tables on its way. -/
def assign? (current : Nat) (name : String) (v : Value) :
    (parents : List String) → Fields → Option Fields
  | [], fields => if fields.contains name then none else some (fields.set name (.value v))
  | key :: parents, fields =>
    match fields.get? key with
    | none => do
      let inner ← assign? current name v parents []
      return fields.set key (.table (.dotted current) inner)
    | some (.table opening inner) =>
      if opening.admits current then do
        let inner ← assign? current name v parents inner
        return fields.set key (.table (.dotted current) inner)
      else none
    | some _ => none

/-- Changes the table that headers lead to; of a list of tables they mean the last. -/
def change? (f : Fields → Option Fields) : (path : List String) → Fields → Option Fields
  | [], fields => f fields
  | key :: path, fields =>
    match fields.get? key with
    | none => do
      let inner ← change? f path []
      return fields.set key (.table .passing inner)
    | some (.table opening inner) => do
      let inner ← change? f path inner
      return fields.set key (.table opening inner)
    | some (.tables closed last) => do
      let last ← change? f path last
      return fields.set key (.tables closed last)
    | some (.value _) => none

/-- Opens a table by its header. -/
def open? (name : String) (fields : Fields) : Option Fields :=
  match fields.get? name with
  | none => some (fields.set name (.table .header []))
  | some (.table .passing inner) => some (fields.set name (.table .header inner))
  | some _ => none

/-- Opens one more table of a list. -/
def append? (name : String) (fields : Fields) : Option Fields :=
  match fields.get? name with
  | none => some (fields.set name (.tables [] []))
  | some (.tables closed last) =>
    some (fields.set name (.tables (closed ++ [.table (Entry.fieldValues last)]) []))
  | some _ => none

end Fields

/-- The table that pairs make which are written as one value. -/
def Table.ofPairs? (pairs : List (Key × Value)) : Option Table :=
  (pairs.foldlM (fun fields p => Fields.assign? 0 p.1.name p.2 p.1.parents fields) []).map
    Entry.fieldValues

inductive Statement where
  | pair (key : Key) (v : Value)
  | table (key : Key)
  | tables (key : Key)

/-- A document as far as it has been read. -/
structure Draft where
  root : Fields := []
  /-- The path of the table that pairs go to. -/
  header : List String := []
  /-- The number of headers so far. -/
  count : Nat := 0

namespace Draft

def extend? (d : Draft) : Statement → Option Draft
  | .pair key v => do
    let root ← d.root.change? (Fields.assign? d.count key.name v key.parents) d.header
    return { d with root }
  | .table key => do
    let root ← d.root.change? (Fields.open? key.name) key.parents
    return ⟨root, key.parents ++ [key.name], d.count + 1⟩
  | .tables key => do
    let root ← d.root.change? (Fields.append? key.name) key.parents
    return ⟨root, key.parents ++ [key.name], d.count + 1⟩

end Draft

/-- The table that statements describe. -/
def Table.ofStatements? (statements : List Statement) : Option Table := do
  let draft ← statements.foldlM Draft.extend? {}
  return Entry.fieldValues draft.root

end PageComponent.Toml
