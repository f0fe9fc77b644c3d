/-!
# Blank characters

The blank characters are those with the Unicode property White_Space and the four information
separators U+001C to U+001F. Trimming and splitting into words are defined from them: a word is a
maximal run of characters that are not blank.
-/

namespace PageComponent.Text

def isBlank (c : Char) : Bool :=
  let n := c.toNat
  (9 ≤ n && n ≤ 13) || (0x1C ≤ n && n ≤ 0x20) || n == 0x85 || n == 0xA0 || n == 0x1680 ||
    (0x2000 ≤ n && n ≤ 0x200A) || n == 0x2028 || n == 0x2029 || n == 0x202F || n == 0x205F ||
    n == 0x3000

def trimStart (cs : List Char) : List Char :=
  cs.dropWhile isBlank

def trimEnd (cs : List Char) : List Char :=
  (cs.reverse.dropWhile isBlank).reverse

def trim (cs : List Char) : List Char :=
  trimEnd (trimStart cs)

/-- A character joins the word that begins right after it, if one does. -/
def words : List Char → List (List Char)
  | [] => []
  | c :: cs =>
    if isBlank c then words cs
    else match cs.head?.map isBlank, words cs with
      | some false, w :: ws => (c :: w) :: ws
      | _, ws => [c] :: ws

end PageComponent.Text

namespace PageComponent

/-- The text without the blanks around it. -/
def trimmed (s : String) : String :=
  .ofList (Text.trim s.toList)

def blankWords (s : String) : List String :=
  (Text.words s.toList).map .ofList

end PageComponent
