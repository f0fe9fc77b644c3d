import PageComponent.Text.Blank

/-!
# The top level of a text

A character is at the top level if it stands outside quotes and brackets. Brackets are only
counted: any closing one undoes any opening one, and a surplus of closing ones is as little the top
level as a surplus of opening ones. A quote runs to the next quote of its kind.
-/

namespace PageComponent

structure Nesting where
  depth : Int
  quote : Option Char
deriving DecidableEq

namespace Nesting

def top : Nesting :=
  ⟨0, none⟩

def isQuote (c : Char) : Bool :=
  c == '"' || c == '\''

def isOpening (c : Char) : Bool :=
  c == '(' || c == '[' || c == '{'

def isClosing (c : Char) : Bool :=
  c == ')' || c == ']' || c == '}'

/-- The nesting behind the character `c`. -/
def after (n : Nesting) (c : Char) : Nesting :=
  match n.quote with
  | some q => if c = q then { n with quote := none } else n
  | none =>
    if isQuote c then { n with quote := some c }
    else if isOpening c then { n with depth := n.depth + 1 }
    else if isClosing c then { n with depth := n.depth - 1 }
    else n

/-- Whether `c` is the separator `sep` at the top level; quotes and brackets never are. -/
def separates (n : Nesting) (sep c : Char) : Bool :=
  n == top && c == sep && !isQuote c && !isOpening c && !isClosing c

end Nesting

namespace Text

def findFrom? (sep : Char) (n : Nesting) : List Char → Option Nat
  | [] => none
  | c :: cs => if n.separates sep c then some 0 else (findFrom? sep (n.after c) cs).map (· + 1)

/-- The position of the first top-level separator. -/
def findTopLevel? (sep : Char) (cs : List Char) : Option Nat :=
  findFrom? sep .top cs

/-- The part that `cs` begins with and the parts behind its separators. -/
def partsFrom (sep : Char) (n : Nesting) : List Char → List Char × List (List Char)
  | [] => ([], [])
  | c :: cs =>
    let (part, parts) := partsFrom sep (n.after c) cs
    if n.separates sep c then ([], part :: parts) else (c :: part, parts)

/-- The last part is dropped if it is blank. -/
def dropBlankEnd (parts : List (List Char)) : List (List Char) :=
  match parts.getLast? with
  | some part => if part.all isBlank then parts.dropLast else parts
  | none => []

/-- The parts between top-level separators. -/
def splitTopLevel (sep : Char) (cs : List Char) : List (List Char) :=
  let (part, parts) := partsFrom sep .top cs
  dropBlankEnd (part :: parts)

end Text

end PageComponent
