import PageComponent.Markup.Node
import PageComponent.Markup.StartTag
import PageComponent.Rest

/-!
# Markup events

A source is read as a sequence of start tags, end tags, texts and constructs that are kept as they
are. A construct that the source breaks off is text. From the first of these on, a number sign
without a number ends the reading of markup: all that follows is text.

A source with a section behind `<![` that has none of the names below is refused as a whole. Such
sources are left out here: the section is read as a comment.
-/

namespace PageComponent

inductive Event where
  | startTag (tag : StartTag)
  | endTag (name : String)
  | text (content : String)
  | verbatim (kind : Verbatim) (content : String)
deriving DecidableEq

namespace Event

/-! ## Marks -/

/-- Characters to look for, in small letters; none stands for any blanks. -/
abbrev Mark := List (Option Char)

def behindMark? (mark : Mark) (cs : List Char) : Option (NotLonger cs) :=
  match mark, cs with
  | [], cs => some (NotLonger.self cs)
  | none :: mark, cs =>
    (behindMark? mark (cs.dropWhile Text.isBlank)).map fun ⟨rest, h⟩ =>
      ⟨rest, Nat.le_trans h (List.dropWhile_sublist _).length_le⟩
  | some m :: mark, c :: cs =>
    if c.toLower = m then
      (behindMark? mark cs).map fun ⟨rest, h⟩ => ⟨rest, length_le_cons_of_le c h⟩
    else none
  | some _ :: _, [] => none

/-- The text before the first place where the mark stands, and what follows the mark. -/
def cutAt? (mark : Mark) : (cs : List Char) → Option (List Char × NotLonger cs)
  | [] => none
  | c :: cs =>
    match behindMark? mark (c :: cs) with
    | some rest => some ([], rest)
    | none => (cutAt? mark cs).map fun (before, ⟨rest, h⟩) =>
      (c :: before, ⟨rest, length_le_cons_of_le c h⟩)

def tagEnd : Mark := [some '>']

def commentEnd : Mark := [some '-', some '-', none, some '>']

def sectionEnd : Mark := [some ']', none, some ']', none, some '>']

def conditionEnd : Mark := [some ']', none, some '>']

/-- The end tag of an element, written in whatever case. -/
def elementEnd (name : String) : Mark :=
  [some '<', some '/', none] ++ name.toList.map some ++ [none, some '>']

/-! ## Constructs -/

/-- What there is behind a `<`. -/
inductive Reading (cs : List Char) where
  | complete (events : List Event) (rest : NotLonger cs)
  /-- The source ends within the construct. -/
  | broken
  /-- The `<` begins no construct. -/
  | plain

def Reading.ofCut {cs : List Char} (events : List Char → List Event) :
    Option (List Char × NotLonger cs) → Reading cs
  | some (before, rest) => .complete (events before) rest
  | none => .broken

/-- The reading of what follows the first `n` characters. -/
def Reading.behind {cs : List Char} (n : Nat) : Reading (cs.drop n) → Reading cs
  | .complete events ⟨rest, h⟩ =>
    .complete events ⟨rest, Nat.le_trans h (by simp only [List.length_drop]; omega)⟩
  | .broken => .broken
  | .plain => .plain

def texts (cs : List Char) : List Event :=
  if cs = [] then [] else [.text (.ofList cs)]

def isEndName : List Char → Bool
  | c :: cs => c.isAlpha && cs.all fun d => d.isAlphanum || ['-', '.', ':', '_'].contains d
  | [] => false

/-- What stands between `</` and `>`: a name, a name with something behind it, or a comment. -/
def ofEndTag (content : List Char) : List Event :=
  let name := Text.trim content
  if isEndName name then [.endTag (lowered (.ofList name))]
  else match content with
    | [] => []
    | c :: cs =>
      if c.isAlpha then
        [.endTag (lowered (.ofList (c :: cs.takeWhile (!StartTag.isNameEnd ·))))]
      else [.verbatim .comment (.ofList content)]

def ofSection (content : List Char) : List Event :=
  if (content.take 6).map Char.toUpper = "CDATA[".toList then
    [.verbatim .characterData (.ofList (content.drop 6))]
  else [.verbatim .declaration (.ofList content)]

def isSectionNamePart (c : Char) : Bool :=
  c.isAlphanum || c == '-' || c == '_' || c == '.'

/-- The section behind `<![`, none if its name is not that of a section; a source with such a name
is one of those that are left out. -/
def readSection? (cs : List Char) : Option (Reading cs) :=
  let name := String.ofList ((cs.takeWhile isSectionNamePart).map Char.toLower)
  if (cs.dropWhile isSectionNamePart).all Text.isBlank then some .broken
  else if ["temp", "cdata", "ignore", "include", "rcdata"].contains name then
    some (.ofCut ofSection (cutAt? sectionEnd cs))
  else if ["if", "else", "endif"].contains name then
    some (.ofCut ofSection (cutAt? conditionEnd cs))
  else none

/-- What there is behind `<!`. -/
def readDeclaration (cs : List Char) : Reading cs :=
  let comment : Reading cs :=
    .ofCut (fun content => [.verbatim .comment (.ofList content)]) (cutAt? tagEnd cs)
  if cs.take 2 = ['-', '-'] then
    .behind 2 (.ofCut (fun content => [.verbatim .comment (.ofList content)])
      (cutAt? commentEnd (cs.drop 2)))
  else if cs.take 1 = ['['] then
    match readSection? (cs.drop 1) with
    | some reading => .behind 1 reading
    | none => comment
  else if (cs.take 7).map Char.toLower = "doctype".toList then
    .behind 7 (.ofCut (fun content => [.verbatim .doctype (.ofList (content.drop 1))])
      (cutAt? tagEnd (cs.drop 7)))
  else comment

/-- An element with raw text, which lasts to its own end tag. Without one its text is lost. -/
def readElement (tag : StartTag) (cs : List Char) : List Event × NotLonger cs :=
  if Tag.isRawName tag.name && !tag.selfClosing then
    match cutAt? (elementEnd tag.name) cs with
    | some (content, rest) => (.startTag tag :: texts content ++ [.endTag tag.name], rest)
    | none => ([.startTag tag], NotLonger.nil cs)
  else ([.startTag tag], NotLonger.self cs)

def readConstruct (cs : List Char) : Reading cs :=
  match cs with
  | [] => .plain
  | c :: r =>
    if c.isAlpha then
      match StartTag.read c r with
      | .complete tag ⟨rest, h⟩ =>
        let (events, ⟨rest', h'⟩) := readElement tag rest
        .complete events ⟨rest', by omega⟩
      | .broken => .broken
      | .stray ⟨rest, h⟩ =>
        let content := (c :: r).take ((c :: r).length - rest.length)
        .complete [.text (.ofList ('<' :: content))] ⟨rest, by omega⟩
    else if c = '/' then .behind 1 (.ofCut ofEndTag (cutAt? tagEnd r))
    else if c = '?' then
      .behind 1 (.ofCut (fun content => [.verbatim .instruction (.ofList content)])
        (cutAt? tagEnd r))
    else if c = '!' then .behind 1 (readDeclaration r)
    else .plain

/-! ## Sources -/

/-- The length of the text that a broken construct is: to the end of a tag, else to the beginning
of the next construct, and else nothing besides the `<`. -/
def brokenLength (cs : List Char) : Nat :=
  let before (c : Char) := (cs.takeWhile (· != c)).length
  if cs.contains '>' then before '>' + 1 else if cs.contains '<' then before '<' else 0

def isPlain (c : Char) : Bool :=
  c != '<' && c != '&'

/-- The events of `cs`, where `broken` tells whether a broken construct stands before it. -/
def read (broken : Bool) (cs : List Char) : List Event :=
  match cs with
  | [] => []
  | c :: r =>
    if c = '<' then
      match readConstruct r with
      | .complete events ⟨rest, _⟩ => events ++ read broken rest
      | .broken =>
        let n := brokenLength r
        .text (.ofList (c :: r.take n)) :: read true (r.drop n)
      | .plain => .text (.singleton c) :: read broken r
    else if c = '&' then
      match Reference.readInText r with
      | .complete decoded n => .text (.ofList decoded) :: read broken (r.drop n)
      | .none => .text (.singleton c) :: read broken r
      | .unfinished => if r.length = 1 then texts r else texts (c :: r)
      | .noNumber =>
        if r.contains ';' && !broken then .text "&#" :: read true (r.drop 1) else texts (c :: r)
    else .text (.ofList (c :: r.takeWhile isPlain)) :: read broken (r.dropWhile isPlain)
termination_by cs.length
decreasing_by
  all_goals simp only [List.length_cons, List.length_drop]
  all_goals first
    | omega
    | exact Nat.lt_succ_of_le (List.dropWhile_sublist _).length_le

def ofSource (source : String) : List Event :=
  read false source.toList

end Event

end PageComponent
