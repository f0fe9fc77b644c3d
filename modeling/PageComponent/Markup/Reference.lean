import PageComponent.Markup.Reference.Names
import PageComponent.Text.Digit

/-!
# Character references

A reference names a character or gives its code point. Code points of control characters that the
windows-1252 encoding fills stand for the characters of that encoding. In attribute values the
semicolon may be missing behind some names, and then the longest such name counts.
-/

namespace PageComponent.Reference

/-- The characters at 0x80 to 0x9F in windows-1252; five places are empty and stand for
themselves. -/
def windowsCodes : List Nat :=
  [0x20AC, 0x81, 0x201A, 0x192, 0x201E, 0x2026, 0x2020, 0x2021, 0x2C6, 0x2030, 0x160, 0x2039,
    0x152, 0x8D, 0x17D, 0x8F, 0x90, 0x2018, 0x2019, 0x201C, 0x201D, 0x2022, 0x2013, 0x2014, 0x2DC,
    0x2122, 0x161, 0x203A, 0x153, 0x9D, 0x17E, 0x178]

/-- The character of a code point; what is no code point of a character is replaced. -/
def charOfCode (n : Nat) : Char :=
  if n.isValidChar then .ofNat n else '\uFFFD'

def numbered (n : Nat) : Char :=
  if 0x80 ≤ n ∧ n < 0xA0 then charOfCode (windowsCodes.getD (n - 0x80) n) else charOfCode n

def named? (name : List Char) : Option (List Char) :=
  (NamedCharacter.table.lookup (String.ofList name)).map (·.map charOfCode)

def decimalValue (ds : List Char) : Nat :=
  (Text.radixValue? 10 ds).getD 0

def hexValue (ds : List Char) : Nat :=
  (Text.radixValue? 16 ds).getD 0

def isHexDigit (c : Char) : Bool :=
  (Text.radixDigit? 16 c).isSome

/-! ## Attribute values -/

/-- Code points that no attribute value may have by reference. -/
def isDisallowed (n : Nat) : Bool :=
  (0x1 ≤ n && n ≤ 0x8) || n == 0xB || (0xE ≤ n && n ≤ 0x1F) || n == 0x7F ||
    (0xFDD0 ≤ n && n ≤ 0xFDEF) || n % 0x10000 == 0xFFFE || n % 0x10000 == 0xFFFF

def numberedInValue (n : Nat) : List Char :=
  if n = 0 then ['\uFFFD']
  else if n ≤ 0x10FFFF ∧ isDisallowed n then []
  else [numbered n]

/-- The character of a name without its semicolon. -/
def unterminated? (name : List Char) : Option (List Char) :=
  if NamedCharacter.unterminated.contains (String.ofList name) then named? name else none

/-- The character of the longest prefix that needs no semicolon, and what follows the prefix. -/
def longestPrefix? (name : List Char) : (length : Nat) → Option (List Char)
  | 0 | 1 => none
  | n + 1 =>
    match unterminated? (name.take (n + 1)) with
    | some cs => some (cs ++ name.drop (n + 1))
    | none => longestPrefix? name n

def namedInValue (name : List Char) (terminated : Bool) : List Char :=
  let whole := if terminated then named? name else unterminated? name
  match whole with
  | some cs => cs
  | none =>
    let tail := if terminated then [';'] else []
    match longestPrefix? name (if terminated then name.length else name.length - 1) with
    | some cs => cs ++ tail
    | none => '&' :: name ++ tail

def isNameChar (c : Char) : Bool :=
  !(['\t', '\n', '\x0c', ' ', '<', '&', '#', ';'].contains c)

/-- What the reference behind an ampersand stands for, and its length. -/
def readInValue? (cs : List Char) : Option (List Char × Nat) :=
  let closed (rest : List Char) : Nat := if rest.head? = some ';' then 1 else 0
  match cs with
  | '#' :: r =>
    let digits := r.takeWhile Char.isDigit
    if digits ≠ [] then
      some (numberedInValue (decimalValue digits),
        1 + digits.length + closed (r.drop digits.length))
    else match r with
      | x :: r =>
        let digits := r.takeWhile isHexDigit
        if (x = 'x' ∨ x = 'X') ∧ digits ≠ [] then
          some (numberedInValue (hexValue digits),
            2 + digits.length + closed (r.drop digits.length))
        else none
      | [] => none
  | _ =>
    let name := (cs.takeWhile isNameChar).take 32
    if name = [] then none
    else
      let n := closed (cs.drop name.length)
      some (namedInValue name (n = 1), name.length + n)

def decodeValue : List Char → List Char
  | [] => []
  | '&' :: cs =>
    match readInValue? cs with
    | some (decoded, n) => decoded ++ decodeValue (cs.drop n)
    | none => '&' :: decodeValue cs
  | c :: cs => c :: decodeValue cs
termination_by cs => cs.length
decreasing_by
  all_goals simp only [List.length_cons, List.length_drop]; omega

/-! ## Texts -/

/-- What a reference stands for in a text. A name that is not known is left as it is. -/
def namedInText (name : List Char) : List Char :=
  (named? name).getD ('&' :: name)

/-- A reference behind an ampersand in a text, as far as the text shows it. -/
inductive TextReference where
  /-- What it stands for, and its length. -/
  | complete (decoded : List Char) (length : Nat)
  /-- A number sign that no number follows. -/
  | noNumber
  /-- A name that the end of the text breaks off. -/
  | unfinished
  /-- The ampersand is no reference. -/
  | none

def isTextNameChar (c : Char) : Bool :=
  c.isAlphanum || c == '-' || c == '.'

/-- The part of a name before its last dash or dot. -/
def beforeLastMark? (name : List Char) : Option (List Char) :=
  match name.reverse.dropWhile (fun c => c.isAlphanum) with
  | _ :: rest => some rest.reverse
  | [] => Option.none

/-- A number counts only if a character follows that is no hexadecimal digit, and a name only if
one follows that is no letter and no digit. A semicolon then belongs to the reference. -/
def readInText (cs : List Char) : TextReference :=
  let complete (decoded : List Char) (n : Nat) : TextReference :=
    .complete decoded (if (cs.drop n).head? = some ';' then n + 1 else n)
  match cs with
  | '#' :: x :: r =>
    let digits := if x = 'x' ∨ x = 'X' then r.takeWhile isHexDigit else []
    if digits ≠ [] then
      if digits.length < r.length then
        complete [numbered (hexValue digits)] (2 + digits.length)
      else .noNumber
    else
      let digits := (x :: r).takeWhile Char.isDigit
      match (x :: r).drop digits.length with
      | c :: _ =>
        if digits = [] ∨ isHexDigit c then .noNumber
        else complete [numbered (decimalValue digits)] (1 + digits.length)
      | [] => .noNumber
  | '#' :: [] => .noNumber
  | c :: r =>
    if c.isAlpha then
      let name := c :: r.takeWhile isTextNameChar
      if name.length < cs.length then complete (namedInText name) name.length
      else match beforeLastMark? name with
        | some name => complete (namedInText name) name.length
        | Option.none => .unfinished
    else .none
  | [] => .none

end PageComponent.Reference
