import PageComponent.Entries

/-!
# Files

The files that a run can read, by the path from the working directory. Text is read as UTF-8 and
its lines end with a line feed, whichever way they end in the file.
-/

namespace PageComponent

abbrev Files := Entries ByteArray

inductive ReadError where
  | missing
  | undecodable
deriving DecidableEq

namespace Files

/-- The names on a path, without empty ones and single dots. -/
def pathNames (path : String) : List String :=
  (path.split (· == '/')).toList.map (·.toString) |>.filter fun name => name ≠ "" ∧ name ≠ "."

/-- One spelling for each path; the empty path is the working directory. -/
def normalPath (path : String) : String :=
  let names := "/".intercalate (pathNames path)
  if path.startsWith "/" then "/" ++ names
  else if names = "" then "."
  else names

/-- The extension of the last name with its dot, in small letters. A dot at either end of the name
begins none. -/
def suffix (path : String) : String :=
  let name := ((pathNames path).getLast?.getD "").toList
  let extension := (name.reverse.takeWhile (· ≠ '.')).reverse
  if extension = [] ∨ name.length ≤ extension.length + 1 then ""
  else .ofList ('.' :: extension.map Char.toLower)

/-- Both a carriage return with a line feed and one alone end a line. -/
def unifyLines : List Char → List Char
  | '\r' :: '\n' :: cs => '\n' :: unifyLines cs
  | '\r' :: cs => '\n' :: unifyLines cs
  | c :: cs => c :: unifyLines cs
  | [] => []

def decode? (bytes : ByteArray) : Option String :=
  (String.fromUTF8? bytes).map fun s => .ofList (unifyLines s.toList)

def read (files : Files) (path : String) : Except ReadError String :=
  match files.get? (normalPath path) with
  | none => .error .missing
  | some bytes => match decode? bytes with
    | some s => .ok s
    | none => .error .undecodable

end Files

end PageComponent
