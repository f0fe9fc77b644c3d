import PageComponent.Rest
import PageComponent.Text.Blank

/-!
# Items of a LESS source

A source is a sequence of variable definitions, declarations and rules, which contain items in
turn. An item ends at a semicolon or a brace outside quotes and parentheses; the last declaration
of a rule needs no semicolon.
-/

namespace PageComponent.Less

inductive Item where
  | variable (name : String) (value : List Char)
  | declaration (property : String) (value : List Char)
  | rule (selector : List Char) (items : List Item)

/-- Where a character stands: within quotes, or within so many parentheses. -/
structure Depth where
  quote : Option Char
  parentheses : Nat
deriving DecidableEq

namespace Depth

def outside : Depth :=
  ⟨none, 0⟩

def after (d : Depth) (c : Char) : Depth :=
  match d.quote with
  | some q => if c = q then { d with quote := none } else d
  | none =>
    if c = '"' ∨ c = '\'' then { d with quote := some c }
    else if c = '(' then { d with parentheses := d.parentheses + 1 }
    else if c = ')' then { d with parentheses := d.parentheses - 1 }
    else d

end Depth

/-- Splits off what comes before the first character outside quotes and parentheses that passes
the test. -/
def cutAt (test : Char → Bool) (d : Depth) : (cs : List Char) → List Char × NotLonger cs
  | [] => ([], NotLonger.self [])
  | c :: cs =>
    if d = .outside ∧ test c then ([], NotLonger.self (c :: cs))
    else
      let (before, ⟨rest, h⟩) := cutAt test (d.after c) cs
      (c :: before, ⟨rest, length_le_cons_of_le c h⟩)

def endsItem (c : Char) : Bool :=
  c == ';' || c == '\x7b' || c == '\x7d'

/-- A definition or declaration; a definition needs a value. -/
def Item.ofChars? (cs : List Char) : Option Item :=
  let body := Text.trim cs
  let name := String.ofList (Text.trim (body.takeWhile (· != ':')))
  match body.dropWhile (· != ':') with
  | [] => none
  | _ :: value =>
    let value := Text.trim value
    if name = "" then none
    else if name.toList.head? = some '@' then
      if value = [] then none else some (.variable (.ofList (name.toList.drop 1)) value)
    else some (.declaration name value)

/-- Blanks are no item. -/
def itemsOfChars? (cs : List Char) : Option (List Item) :=
  if cs.all Text.isBlank then some [] else (Item.ofChars? cs).map ([·])

/-- The items up to a closing brace or the end. -/
def readItems? (cs : List Char) : Option (List Item × NotLonger cs) :=
  match cutAt endsItem .outside cs with
  | (chunk, ⟨[], _⟩) => (itemsOfChars? chunk).map (·, NotLonger.nil cs)
  | (chunk, ⟨c :: r, h⟩) => do
    have h : r.length < cs.length := h
    if c = ';' then
      let items ← itemsOfChars? chunk
      let (more, ⟨rest, h₁⟩) ← readItems? r
      return (items ++ more, ⟨rest, by omega⟩)
    else if c = '\x7b' then
      let (inner, ⟨r₁, h₁⟩) ← readItems? r
      if r₁ = [] then none
      let (more, ⟨rest, h₂⟩) ← readItems? (r₁.drop 1)
      return (.rule (Text.trim chunk) inner :: more,
        ⟨rest, by simp only [List.length_drop] at h₂; omega⟩)
    else
      let items ← itemsOfChars? chunk
      return (items, ⟨c :: r, h⟩)
termination_by cs.length
decreasing_by
  all_goals first
    | omega
    | simp only [List.length_drop]; omega

/-- The items of a source, none if it is not well formed. -/
def read? (source : String) : Option (List Item) :=
  match readItems? source.toList with
  | some (items, ⟨[], _⟩) => some items
  | _ => none

end PageComponent.Less
