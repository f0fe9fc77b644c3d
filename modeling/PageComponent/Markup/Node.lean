import PageComponent.Entries

/-!
# Nodes

A document is a list of nodes: elements with their children, texts, and constructs that are kept
as they are. The attributes of an element keep their order. Elements nest to any depth: a limit on
the depth of recursion is left out.
-/

namespace PageComponent

structure Tag where
  name : String
  attributes : Entries String
deriving DecidableEq

/-- What a node besides elements and texts is. -/
inductive Verbatim where
  | comment
  | doctype
  | characterData
  | declaration
  | instruction
deriving DecidableEq

inductive Node where
  | element (tag : Tag) (children : List Node)
  | text (content : String)
  | verbatim (kind : Verbatim) (content : String)

namespace Tag

def get? (tag : Tag) (key : String) : Option String :=
  Entries.get? tag.attributes key

def has (tag : Tag) (key : String) : Bool :=
  Entries.contains tag.attributes key

def set (tag : Tag) (key value : String) : Tag :=
  { tag with attributes := Entries.set tag.attributes key value }

def erase (tag : Tag) (key : String) : Tag :=
  { tag with attributes := Entries.erase tag.attributes key }

/-- Elements whose text is written without references. -/
def isRawName (name : String) : Bool :=
  name == "script" || name == "style"

end Tag

namespace Node

def tag? : Node → Option Tag
  | .element tag _ => some tag
  | _ => none

def children : Node → List Node
  | .element _ children => children
  | _ => []

/-- Elements whose text is not part of the text around them. -/
def hidesText (name : String) : Bool :=
  ["script", "style", "template", "rt", "rp"].contains name

mutual

/-- The text of a node and of what it contains. -/
def textContent : Node → String
  | .element tag children => if hidesText tag.name then "" else textContents children
  | .text content => content
  | .verbatim .characterData content => content
  | .verbatim _ _ => ""

def textContents : List Node → String
  | [] => ""
  | node :: nodes => node.textContent ++ textContents nodes

end

mutual

/-- The first element, in document order, whose tag passes the test. -/
def find? (test : Tag → Bool) : Node → Option Node
  | .element tag children =>
    if test tag then some (.element tag children) else findAmong? test children
  | .text _ | .verbatim _ _ => none

def findAmong? (test : Tag → Bool) : List Node → Option Node
  | [] => none
  | node :: nodes => (node.find? test).or (findAmong? test nodes)

end

/-- The first element within a node whose tag passes the test. -/
def findWithin? (node : Node) (test : Tag → Bool) : Option Node :=
  findAmong? test node.children

mutual

/-- The node with `f` applied to the first element that passes the test, if one does. -/
def modify? (test : Tag → Bool) (f : Node → Node) : Node → Option Node
  | .element tag children =>
    if test tag then some (f (.element tag children))
    else (modifyAmong? test f children).map (.element tag)
  | .text _ | .verbatim _ _ => none

def modifyAmong? (test : Tag → Bool) (f : Node → Node) : List Node → Option (List Node)
  | [] => none
  | node :: nodes =>
    match node.modify? test f with
    | some node => some (node :: nodes)
    | none => (modifyAmong? test f nodes).map (node :: ·)

end

/-- The node with `f` applied to the first such element within it. -/
def modifyWithin? (test : Tag → Bool) (f : Node → Node) : Node → Option Node
  | .element tag children => (modifyAmong? test f children).map (.element tag)
  | .text _ | .verbatim _ _ => none

def mapTag (f : Tag → Tag) : Node → Node
  | .element tag children => .element (f tag) children
  | node => node

mutual

/-- Keeps an element with the tag that `onTag` gives, and drops it with all it contains if `onTag`
gives none; texts become what `onText` gives. What is dropped is not looked at. -/
def transform {ε : Type} (onTag : Tag → Except ε (Option Tag)) (onText : String → Except ε String) :
    Node → Except ε (Option Node)
  | .element tag children => do
    match ← onTag tag with
    | some tag => return some (.element tag (← transformAll onTag onText children))
    | none => return none
  | .text content => return some (.text (← onText content))
  | .verbatim kind content => return some (.verbatim kind content)

def transformAll {ε : Type} (onTag : Tag → Except ε (Option Tag))
    (onText : String → Except ε String) : List Node → Except ε (List Node)
  | [] => return []
  | node :: nodes => do
    match ← node.transform onTag onText with
    | some node => return node :: (← transformAll onTag onText nodes)
    | none => transformAll onTag onText nodes

end

/-- The first top-level element. -/
def root? (nodes : List Node) : Option Node :=
  nodes.find? (·.tag?.isSome)

end Node

end PageComponent
