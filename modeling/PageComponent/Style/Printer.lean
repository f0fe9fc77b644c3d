import PageComponent.Render.Options
import PageComponent.Text.Blank
import PageComponent.Value.Conversion

/-!
# Printing style trees

A block is closed by difference of depth: behind every entry a brace is written at the entry's own
indentation if the entry before it was deeper, and behind an empty block in any case. A block is
set off by a blank line unless it comes first.
-/

namespace PageComponent.Style

/-- What is written so far and the depth of the last entry. -/
structure Writer where
  written : String
  depth : Nat
deriving DecidableEq

def indentation (depth : Nat) : String :=
  .ofList (List.replicate (2 * depth) ' ')

namespace Writer

def write (w : Writer) (s : String) : Writer :=
  { w with written := w.written ++ s }

/-- Ends an entry at `depth`. -/
def finish (w : Writer) (depth : Nat) (empty : Bool) : Writer :=
  let w := if depth < w.depth || empty then w.write (indentation depth ++ "\x7d\n") else w
  { w with depth }

end Writer

def openBlock (w : Writer) (depth : Nat) (key : String) : Writer :=
  let w := if w.written = "" then w else w.write "\n"
  w.write (indentation depth ++ key ++ " \x7b\n")

def writeLeaf (depth : Nat) (key : String) (w : Writer) (value : Value) :
    Except TooLarge Writer := do
  let text ← value.toText
  return (w.write (indentation depth ++ key ++ ": " ++ text ++ ";\n")).finish depth false

mutual

def writeEntry (depth : Nat) (key : String) (w : Writer) : Value → Except TooLarge Writer
  | .mapping fields => do
    let w ← writeEntries (depth + 1) (openBlock w depth key) fields
    return w.finish depth fields.isEmpty
  | value => writeLeaf depth key w value

def writeEntries (depth : Nat) (w : Writer) : List (String × Value) → Except TooLarge Writer
  | [] => .ok w
  | (key, value) :: rest => do
    let w ← writeEntry depth key w value
    writeEntries depth w rest

end

/-- The source of a style tree, without blanks around it. -/
def print (tree : StyleTree) : Except TooLarge String := do
  return trimmed (← writeEntries 0 ⟨"", 0⟩ tree).written

end PageComponent.Style
