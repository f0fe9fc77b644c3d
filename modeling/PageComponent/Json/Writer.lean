import PageComponent.Number.Format
import PageComponent.Text.Digit
import PageComponent.Value.Basic

/-!
# Writing JSON

A value is written on several lines, each level two spaces deeper; an empty list or mapping keeps
to one line. Characters beyond ASCII are written as they are or by their UTF-16 code units.
-/

namespace PageComponent.Json

inductive Charset where
  | unicode
  | ascii
deriving DecidableEq

/-- The escape by which a code unit is written. -/
def escapeUnit (n : Nat) : List Char :=
  '\\' :: 'u' :: Text.paddedDigits 16 4 n

def escapeUnits (c : Char) : List Char :=
  let n := c.toNat
  if n < 0x10000 then escapeUnit n
  else escapeUnit (0xD800 + (n - 0x10000) / 0x400) ++ escapeUnit (0xDC00 + (n - 0x10000) % 0x400)

def escape (charset : Charset) (c : Char) : List Char :=
  if c = '"' ∨ c = '\\' then ['\\', c]
  else if c = '\n' then ['\\', 'n']
  else if c = '\r' then ['\\', 'r']
  else if c = '\t' then ['\\', 't']
  else if c = '\x08' then ['\\', 'b']
  else if c = '\x0c' then ['\\', 'f']
  else if c.toNat < 0x20 ∨ (charset = .ascii ∧ 0x7F ≤ c.toNat) then escapeUnits c
  else [c]

def writeText (charset : Charset) (s : String) : String :=
  .ofList ('"' :: s.toList.flatMap (escape charset) ++ ['"'])

def writeNumber : Number → String
  | .int n => toString n
  | .float x => NumberFormat.document.write x

/-- The start of a line at the given depth. -/
def lineStart (depth : Nat) : String :=
  .ofList ('\n' :: List.replicate (2 * depth) ' ')

/-- Parts between brackets, each on a line of its own. -/
def block (opening closing : String) (depth : Nat) (parts : List String) : String :=
  if parts.isEmpty then opening ++ closing
  else
    let start := lineStart (depth + 1)
    opening ++ start ++ ("," ++ start).intercalate parts ++ lineStart depth ++ closing

mutual

def writeAt (charset : Charset) (depth : Nat) : Value → String
  | .null | .undefined => "null"
  | .bool b => if b then "true" else "false"
  | .number n => writeNumber n
  | .text s => writeText charset s
  | .list items => block "[" "]" depth (writeItems charset (depth + 1) items)
  | .mapping fields => block "\x7b" "\x7d" depth (writeFields charset (depth + 1) fields)

def writeItems (charset : Charset) (depth : Nat) : List Value → List String
  | [] => []
  | item :: rest => writeAt charset depth item :: writeItems charset depth rest

def writeFields (charset : Charset) (depth : Nat) : List (String × Value) → List String
  | [] => []
  | (key, value) :: rest =>
    (writeText charset key ++ ": " ++ writeAt charset depth value) ::
      writeFields charset depth rest

end

def write (charset : Charset) (v : Value) : String :=
  writeAt charset 0 v

end PageComponent.Json
