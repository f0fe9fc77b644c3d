/-!
# Nesting rules

How tags nest where the source does not say. As authored, an element lasts to its own end tag or
to that of an element around it. In a declaration some start tags also end the element before
them, and an end tag does not reach beyond an element of greater weight.

The tables cover the elements of components. The frame of a whole document is not built around a
declaration, and repairs of markup that go beyond these rules are left out.
-/

namespace PageComponent

structure NestingRules where
  isVoid : String → Bool
  /-- Whether the start tag of the first element ends the second one. -/
  closes : String → String → Bool
  /-- An end tag ends no element of greater weight than its own. -/
  weight : String → Nat
  /-- Elements whose start tag has no effect. -/
  ignores : String → Bool
  /-- Of a repeated attribute the last value counts, else the first. -/
  lastValue : Bool
  /-- An element without content makes up for one later end tag of its name. -/
  awaitsEnd : Bool

namespace NestingRules

/-- Elements that have no content. -/
def voidNames : List String :=
  ["area", "base", "br", "col", "embed", "hr", "img", "input", "keygen", "link", "menuitem",
    "meta", "param", "source", "track", "wbr", "basefont", "bgsound", "command", "frame", "image",
    "isindex", "nextid", "spacer"]

def authored : NestingRules where
  isVoid name := voidNames.contains name
  closes _ _ := false
  weight _ := 0
  ignores _ := false
  lastValue := true
  awaitsEnd := true

def headings : List String :=
  ["h1", "h2", "h3", "h4", "h5", "h6"]

def preformatted : List String :=
  ["pre", "listing", "xmp"]

/-- The elements that a start tag ends. -/
def closedBy : List (String × List String) :=
  [("form", ["form", "p", "hr", "dl", "ul", "ol", "menu", "dir", "address", "head"] ++ headings ++
      preformatted),
    ("head", ["p"]), ("title", ["p"]),
    ("li", ["p", "dl", "address", "head", "li"] ++ headings ++ preformatted),
    ("hr", ["p", "head"]), ("h1", ["p", "head"]), ("h2", ["p", "head"]), ("h3", ["p", "head"]),
    ("h4", ["p", "head"]), ("h5", ["p", "head"]), ("h6", ["p", "head"]), ("dir", ["p", "head"]),
    ("address", ["p", "head", "ul"]), ("pre", ["p", "head", "ul"]), ("listing", ["p", "head"]),
    ("xmp", ["p", "head"]), ("blockquote", ["p", "head"]),
    ("dl", ["p", "dt", "menu", "dir", "address", "head"] ++ preformatted),
    ("dt", ["p", "dd", "menu", "dir", "address", "head"] ++ preformatted),
    ("dd", ["p", "dt", "menu", "dir", "address", "head"] ++ preformatted),
    ("ul", ["p", "ol", "menu", "dir", "address", "head"] ++ preformatted),
    ("ol", ["p", "head", "ul"]), ("menu", ["p", "head", "ul"]),
    ("p", ["p", "head", "tt", "i", "b", "u", "s", "strike", "big", "small"] ++ headings),
    ("div", ["p", "head"]), ("noscript", ["script"]), ("center", ["font", "b", "i", "p", "head"]),
    ("a", ["a", "head"]), ("caption", ["p"]),
    ("colgroup", ["caption", "colgroup", "col", "p"]), ("col", ["caption", "col", "p"]),
    ("table", ["p", "head", "a"] ++ headings ++ preformatted),
    ("th", ["th", "td", "p", "span", "font", "a", "b", "u"]),
    ("td", ["th", "td", "p", "span", "font", "a", "b", "u"]),
    ("tr", ["th", "td", "tr", "caption", "col", "colgroup", "p"]),
    ("thead", ["caption", "col", "colgroup", "p"]),
    ("tfoot", ["th", "td", "tr", "caption", "col", "colgroup", "thead", "tbody", "p"]),
    ("tbody", ["th", "td", "tr", "caption", "col", "colgroup", "thead", "tfoot", "tbody", "p"]),
    ("optgroup", ["option"]), ("option", ["option"]),
    ("fieldset", ["legend", "p", "head", "a"] ++ headings ++ preformatted)]

def weights : List (String × Nat) :=
  [("div", 150), ("td", 160), ("th", 160), ("tr", 170), ("thead", 180), ("tbody", 180),
    ("tfoot", 180), ("table", 190), ("head", 200), ("body", 200), ("html", 220)]

def declared : NestingRules where
  isVoid name :=
    ["area", "base", "basefont", "br", "col", "frame", "hr", "img", "input", "isindex", "link",
      "meta", "param"].contains name
  closes new open_ := ((closedBy.lookup new).getD []).contains open_
  weight name := (weights.lookup name).getD 100
  ignores name := ["html", "head", "body"].contains name
  lastValue := false
  awaitsEnd := false

end NestingRules

end PageComponent
