import PageComponent.Markup.Reference
import PageComponent.Rest
import PageComponent.Text.Blank
import PageComponent.Text.Lowercase

/-!
# Start tags

A start tag is read from behind its `<`. Names end at blanks, slashes and `>`; attributes may have
a value, quoted or not. A quote that is never closed is no quote, and its text is read otherwise.
-/

namespace PageComponent

/-- A start tag as written: its name and its attributes, both in small letters. -/
structure StartTag where
  name : String
  attributes : List (String × String)
  selfClosing : Bool
deriving DecidableEq

/-- What there is behind a `<` that a letter follows. -/
inductive StartTag.Reading (cs : List Char) where
  /-- A tag, and what follows it. -/
  | complete (tag : StartTag) (rest : Shorter cs)
  /-- The source ends within the tag. -/
  | broken
  /-- A tag that nothing ends: it is text up to `rest`. -/
  | stray (rest : Shorter cs)

namespace StartTag

def isNameEnd (c : Char) : Bool :=
  ['\t', '\n', '\r', '\x0c', ' ', '/', '>', '\x00'].contains c

def isAttributeStart (c : Char) : Bool :=
  !Text.isBlank c && c != '/' && c != '>'

def isAttributeNamePart (c : Char) : Bool :=
  isAttributeStart c && c != '='

def isBareValuePart (c : Char) : Bool :=
  !Text.isBlank c && c != '>'

/-- An attribute may only begin behind one of these characters. -/
def allowsAttribute (c : Char) : Bool :=
  c == '\'' || c == '"' || c == '/' || Text.isBlank c

/-- Blanks and slashes separate attributes; a slash right before `>` belongs to the end. -/
def skipSeparators : (cs : List Char) → NotLonger cs
  | [] => NotLonger.self []
  | c :: cs =>
    if Text.isBlank c || (c == '/' && cs.head? != some '>') then
      let ⟨rest, h⟩ := skipSeparators cs
      ⟨rest, length_le_cons_of_le c h⟩
    else NotLonger.self (c :: cs)

/-- The last character of `cs` before `rest`, which it ends with; `start` if there is none. -/
def lastRead (start : Char) (cs rest : List Char) : Char :=
  (cs.take (cs.length - rest.length)).getLast?.getD start

/-- The value behind a run of equals signs. If its quote is never closed, a blank before the quote
is an empty value, and else the last of several equals signs begins the value. -/
def readValue? (cs : List Char) : Option (List Char × NotLonger cs) :=
  let ⟨equals, h⟩ := NotLonger.dropWhile Text.isBlank cs
  let ⟨after, h₁⟩ := NotLonger.dropWhile (· == '=') equals
  let count := equals.length - after.length
  if count = 0 then none
  else
    let ⟨body, h₂⟩ := NotLonger.dropWhile Text.isBlank after
    match body with
    | [] => some ([], NotLonger.nil cs)
    | q :: r =>
      if q = '"' ∨ q = '\'' then
        let ⟨closing, h₃⟩ := NotLonger.dropWhile (· != q) r
        match closing with
        | _ :: rest =>
          some (r.take (r.length - (rest.length + 1)),
            ⟨rest, by simp only [List.length_cons] at h₂ h₃; omega⟩)
        | [] =>
          let start := cs.length - (r.length + 1)
          if (q :: r).length < after.length then
            some ([], ⟨cs.drop (start - 1), by simp⟩)
          else if 1 < count then
            let value := '=' :: (q :: r).takeWhile isBareValuePart
            some (value, ⟨cs.drop (start + value.length - 1), by simp⟩)
          else none
      else
        let ⟨rest, h₃⟩ := NotLonger.dropWhile isBareValuePart (q :: r)
        some ((q :: r).takeWhile isBareValuePart, ⟨rest, by omega⟩)

/-- The attributes at the front of `cs`, which stands behind the character `previous`. -/
def readAttributes (previous : Char) (cs : List Char) :
    List (String × String) × NotLonger cs :=
  match cs with
  | [] => ([], NotLonger.self [])
  | c :: r =>
    if allowsAttribute previous && isAttributeStart c then
      let ⟨afterName, h⟩ := NotLonger.dropWhile isAttributeNamePart r
      let name := c :: r.takeWhile isAttributeNamePart
      let (value, ⟨afterValue, h₁⟩) := match readValue? afterName with
        | some (value, rest) => (value, rest)
        | none => ([], NotLonger.self afterName)
      let ⟨rest, h₂⟩ := skipSeparators afterValue
      have : rest.length < (c :: r).length := by simp only [List.length_cons]; omega
      let (attributes, ⟨rest', h₃⟩) := readAttributes (lastRead previous (c :: r) rest) rest
      ((lowered (.ofList name), .ofList (Reference.decodeValue value)) :: attributes,
        ⟨rest', by simp only [List.length_cons]; omega⟩)
    else ([], NotLonger.self (c :: r))
termination_by cs.length
decreasing_by exact this

/-- Reads the tag that begins with the letter `c`. -/
def read (c : Char) (cs : List Char) : Reading (c :: cs) :=
  let ⟨afterName, h⟩ := NotLonger.dropWhile (!isNameEnd ·) cs
  let name := c :: cs.takeWhile (!isNameEnd ·)
  let ⟨start, h₁⟩ := skipSeparators afterName
  let (attributes, ⟨rest, h₂⟩) := readAttributes (lastRead c (c :: cs) start) start
  have h₃ : rest.length < (c :: cs).length := by simp only [List.length_cons]; omega
  let tag (selfClosing : Bool) : StartTag :=
    ⟨lowered (.ofList name), attributes, selfClosing⟩
  if rest.take 1 = ['>'] then
    .complete (tag false) ⟨rest.drop 1, by simp only [List.length_drop]; omega⟩
  else if rest.take 2 = ['/', '>'] then
    .complete (tag true) ⟨rest.drop 2, by simp only [List.length_drop]; omega⟩
  else match rest.head? with
    | none => .broken
    | some d => if d = '/' ∨ d = '=' ∨ d.isAlpha then .broken else .stray ⟨rest, h₃⟩

end StartTag

end PageComponent
