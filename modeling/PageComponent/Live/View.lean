import PageComponent.Value.Equality
import PageComponent.Value.Inspect
import PageComponent.Value.Path

/-!
# Views

Live parameters are read and written through views. A view stands on a mapping of the parameters,
and reading a mapping gives a further view; every other value is read as it is. Each write through
a view is a change to be reported. Keys are texts; keys of other kinds, which an update with pairs
could bring in, are left out.
-/

namespace PageComponent.Live

/-- What reading gives: a view onto a mapping, or a plain value. -/
inductive Target where
  | view (fields : Params)
  | plain (v : Value)

namespace Target

def ofValue : Value → Target
  | .mapping fields => view fields
  | v => plain v

/-- The data, detached from the parameters. -/
def toValue : Target → Value
  | view fields => .mapping fields
  | plain v => v

end Target

inductive AccessError where
  | missingKey
  /-- The value cannot be indexed, written to, searched or taken as pairs. -/
  | wrongType
  /-- The value has no such operation. -/
  | unsupported
deriving DecidableEq

/-- The value at a key. -/
def Target.get (t : Target) (key : String) : Except AccessError Target :=
  match t with
  | view fields =>
    match Entries.get? fields key with
    | some v => .ok (.ofValue v)
    | none => .error .missingKey
  | plain _ => .error .wrongType

/-- What the keys lead to, one after another. -/
def reach (data : Params) (keys : List String) : Except AccessError Target :=
  keys.foldlM Target.get (.view data)

/-- The parameters with `f` applied to the value that the keys lead to. -/
def updateAt (f : Value → Value) : List String → Value → Value
  | [], v => f v
  | key :: keys, .mapping fields =>
    match Entries.get? fields key with
    | some v => .mapping (Entries.set fields key (updateAt f keys v))
    | none => .mapping fields
  | _ :: _, v => v

/-! ## Operations -/

inductive Operation where
  | set (key : String) (value : Value)
  /-- Sets a key to what the keys `source` lead to. -/
  | assign (key : String) (source : List String)
  | erase (key : String)
  | get (key : String)
  | getOr (key : String) (default : Value)
  | pop (key : String) (default : Option Value)
  | popFirst
  | clear
  | update (values : Value)
  | setDefault (key : String) (default : Value)
  | contains (key : String)
  | keys
  | length
  | equals (other : Value)
  | inspect
  | detach

inductive Reply where
  | target (t : Target)
  /-- A key with what was there. -/
  | entry (key : String) (t : Target)

namespace Reply

def plain (v : Value) : Reply :=
  .target (.plain v)

def nothing : Reply :=
  plain .null

end Reply

/-- What an operation gives, what it leaves in its place, and how many changes it reports. -/
structure Effect (α : Type) where
  reply : Reply
  after : α
  changes : Nat
  /-- The error that stopped the operation behind its last change, if one did. -/
  stopped : Option AccessError := none

/-- The items of a list or the characters of a text. -/
def items? : Value → Option (List Value)
  | .list items => some items
  | .text s => some (s.toList.map fun c => .text (.singleton c))
  | _ => none

/-- The key and the value that an item of two parts stands for. A key is always a text. -/
def pair? : Value → Option (String × Value)
  | .list [.text key, value] => some (key, value)
  | .text s =>
    match s.toList with
    | [key, value] => some (.singleton key, .text (.singleton value))
    | _ => none
  | .mapping [(key, _), (value, _)] => some (key, .text value)
  | _ => none

namespace View

def read (fields : Params) (reply : Reply) : Except AccessError (Effect Params) :=
  .ok { reply, after := fields, changes := 0 }

def write (fields : Params) (key : String) (value : Value) (reply : Reply) :
    Except AccessError (Effect Params) :=
  .ok { reply, after := Entries.set fields key value, changes := 1 }

/-- Sets the keys of pairs in turn. An item that is no pair stops this, and what is written by then
stays. -/
def setPairs (fields : Params) : List Value → Except AccessError (Effect Params)
  | [] => read fields .nothing
  | item :: items =>
    match pair? item with
    | none => .error .wrongType
    | some (key, value) =>
      let written := Entries.set fields key value
      match setPairs written items with
      | .ok effect => .ok { effect with changes := effect.changes + 1 }
      | .error e => .ok { reply := .nothing, after := written, changes := 1, stopped := some e }

/-- An operation on a view of `fields`, which is part of `data`. -/
def run (data fields : Params) : Operation → Except AccessError (Effect Params)
  | .set key value => write fields key value .nothing
  | .assign key source => do write fields key (← reach data source).toValue .nothing
  | .erase key =>
    if Entries.contains fields key then
      .ok { reply := .nothing, after := Entries.erase fields key, changes := 1 }
    else .error .missingKey
  | .get key => do read fields (.target (← (Target.view fields).get key))
  | .getOr key default =>
    match Entries.get? fields key with
    | some v => read fields (.target (.ofValue v))
    | none => read fields (.plain default)
  | .pop key default =>
    match Entries.get? fields key, default with
    | some v, _ =>
      .ok { reply := .target (.ofValue v), after := Entries.erase fields key, changes := 1 }
    | none, some default => read fields (.plain default)
    | none, none => .error .missingKey
  | .popFirst =>
    match fields with
    | (key, v) :: rest => .ok { reply := .entry key (.ofValue v), after := rest, changes := 1 }
    | [] => .error .missingKey
  | .clear => .ok { reply := .nothing, after := [], changes := fields.length }
  | .update (.mapping values) =>
    let after := values.foldl (fun fields e => Entries.set fields e.1 e.2) fields
    .ok { reply := .nothing, after, changes := values.length }
  | .update values =>
    match items? values with
    | some items => setPairs fields items
    | none => .error .wrongType
  | .setDefault key default =>
    match Entries.get? fields key with
    | some v => read fields (.target (.ofValue v))
    | none => write fields key default (.plain default)
  | .contains key => read fields (.plain (.bool (Entries.contains fields key)))
  | .keys => read fields (.plain (.list ((Entries.keys fields).map .text)))
  | .length => read fields (.plain (Value.int fields.length))
  | .equals other => read fields (.plain (.bool ((Value.mapping fields).same other)))
  | .inspect =>
    read fields (.plain (.text ("ObservableParams(" ++ (Value.mapping fields).inspect ++ ")")))
  | .detach => read fields (.plain (.mapping fields))

end View

namespace Plain

def isInfix (part : List Char) : List Char → Bool
  | [] => part.isEmpty
  | c :: cs => part.isPrefixOf (c :: cs) || isInfix part cs

def contains? (key : String) : Value → Option Bool
  | .list items => some (items.any (Value.same (.text key)))
  | .text s => some (isInfix key.toList s.toList)
  | _ => none

def read (v : Value) : Option Value → Except AccessError (Effect Value)
  | some reply => .ok { reply := .plain reply, after := v, changes := 0 }
  | none => .error .wrongType

def isList : Value → Bool
  | .list _ => true
  | _ => false

/-- An operation on a value that is no mapping. -/
def run (data : Params) (v : Value) : Operation → Except AccessError (Effect Value)
  | .set _ _ | .erase _ | .get _ => .error .wrongType
  | .assign _ source => do
    let _ ← reach data source
    throw .wrongType
  | .pop _ _ => .error (if isList v then .wrongType else .unsupported)
  | .clear =>
    if isList v then .ok { reply := .nothing, after := .list [], changes := 0 }
    else .error .unsupported
  | .getOr _ _ | .popFirst | .update _ | .setDefault _ _ | .detach => .error .unsupported
  | .contains key => read v ((contains? key v).map .bool)
  | .keys => read v ((items? v).map .list)
  | .length => read v ((items? v).map fun items => Value.int items.length)
  | .equals other => read v (some (.bool (v.same other)))
  | .inspect => read v (some (.text v.inspect))

end Plain

/-- An operation on what `keys` lead to; it leaves the parameters in their new state. -/
def operate (data : Params) (keys : List String) (op : Operation) :
    Except AccessError (Effect Params) := do
  let put (v : Value) : Params :=
    match updateAt (fun _ => v) keys (.mapping data) with
    | .mapping data => data
    | _ => data
  match ← reach data keys with
  | .view fields =>
    let effect ← View.run data fields op
    return { effect with after := put (.mapping effect.after) }
  | .plain v =>
    let effect ← Plain.run data v op
    return { effect with after := put effect.after }

end PageComponent.Live
