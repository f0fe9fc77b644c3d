import PageComponent.Markup.Node
import PageComponent.Text.Blank

/-!
# Classes and styles of a tag

The class attribute is a list of words. Writing it puts single spaces between them.
-/

namespace PageComponent.Tag

def classes (tag : Tag) : List String :=
  blankWords ((tag.get? "class").getD "")

/-- No attribute is made for no classes. -/
def setClasses (tag : Tag) (names : List String) : Tag :=
  if names ≠ [] ∨ tag.has "class" then tag.set "class" (" ".intercalate names) else tag

/-- The classes with one more at their end, unless it is among them. -/
def insertClass (names : List String) (name : String) : List String :=
  if names.contains name then names else names ++ [name]

def addClasses (tag : Tag) (names : String) : Tag :=
  tag.setClasses ((blankWords names).foldl insertClass tag.classes)

def removeClasses (tag : Tag) (names : String) : Tag :=
  if tag.has "class" then
    tag.setClasses (tag.classes.filter fun name => !(blankWords names).contains name)
  else tag

/-- Adds declarations behind the style that the tag has. -/
def appendStyle (tag : Tag) (declarations : List String) (terminated : Bool) : Tag :=
  let before := match tag.get? "style" with
    | some style => if style = "" then "" else style ++ "; "
    | none => ""
  let style := before ++ "; ".intercalate declarations
  tag.set "style" (if terminated then style ++ ";" else style)

end PageComponent.Tag
