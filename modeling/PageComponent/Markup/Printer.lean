import PageComponent.Markup.Nesting
import PageComponent.Markup.Node

/-!
# Printing markup

Ampersands, angle brackets and non-breaking spaces are written as references, in texts as in
attribute values. A value is put in double quotes, in single ones if it holds only double quotes;
if it holds both, its double quotes are written as references.
-/

namespace PageComponent

namespace Markup

def escapeChar (c : Char) : List Char :=
  if c = '&' then "&amp;".toList
  else if c = '<' then "&lt;".toList
  else if c = '>' then "&gt;".toList
  else if c = '\xa0' then "&nbsp;".toList
  else [c]

def escape (s : String) : List Char :=
  s.toList.flatMap escapeChar

def quoteValue (cs : List Char) : List Char :=
  if cs.contains '"' then
    if cs.contains '\'' then
      '"' :: cs.flatMap (fun c => if c = '"' then "&quot;".toList else [c]) ++ ['"']
    else '\'' :: cs ++ ['\'']
  else '"' :: cs ++ ['"']

def printAttribute (entry : String × String) : List Char :=
  ' ' :: entry.1.toList ++ '=' :: quoteValue (escape entry.2)

end Markup

namespace Tag

def printStart (tag : Tag) : List Char :=
  '<' :: tag.name.toList ++ tag.attributes.flatMap Markup.printAttribute ++ ['>']

def printEnd (tag : Tag) : List Char :=
  '<' :: '/' :: tag.name.toList ++ ['>']

end Tag

namespace Verbatim

def opening : Verbatim → String
  | comment => "<!--"
  | doctype => "<!DOCTYPE "
  | characterData => "<![CDATA["
  | declaration => "<?"
  | instruction => "<?"

def closing : Verbatim → String
  | comment => "-->"
  | doctype => ">\n"
  | characterData => "]]>"
  | declaration => "?>"
  | instruction => ">"

end Verbatim

namespace Node

mutual

/-- Raw text is written as it is. -/
def printChars (raw : Bool) : Node → List Char
  | .element tag children =>
    if children.isEmpty && NestingRules.authored.isVoid tag.name then tag.printStart
    else tag.printStart ++ printAllChars (Tag.isRawName tag.name) children ++ tag.printEnd
  | .text content => if raw then content.toList else Markup.escape content
  | .verbatim kind content => kind.opening.toList ++ content.toList ++ kind.closing.toList

def printAllChars (raw : Bool) : List Node → List Char
  | [] => []
  | node :: nodes => node.printChars raw ++ printAllChars raw nodes

end

def print (node : Node) : String :=
  .ofList (node.printChars false)

def printAll (nodes : List Node) : String :=
  .ofList (printAllChars false nodes)

end Node

end PageComponent
