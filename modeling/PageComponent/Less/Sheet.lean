import PageComponent.Less.Value

/-!
# Compiled style sheets

Nested rules become a flat sequence of blocks. The selectors of an inner rule are put behind each
selector of the outer one, or in place of `&`. A rule for a medium moves out of the rule that
contains it and takes that rule's selectors inside.

This is the part of the language that component styles are written in. Mixins, guards, functions,
operations, interpolation and imports are left out, and so are the units and selectors that a
compiler may refuse: a source with them is compiled as it stands.
-/

namespace PageComponent.Less

inductive Block where
  | rule (selectors : List String) (declarations : List (String × String))
  | media (query : String) (blocks : List Block)

/-! ## Selectors -/

/-- The parts between commas outside quotes and parentheses. -/
def splitCommas (d : Depth) : List Char → List (List Char)
  | [] => [[]]
  | c :: cs =>
    match splitCommas (d.after c) cs with
    | part :: parts =>
      if d = .outside ∧ c = ',' then [] :: part :: parts else (c :: part) :: parts
    | [] => [[c]]

def isCombinator (c : Char) : Bool :=
  c == '>' || c == '+' || c == '~'

/-- Puts blanks around the combinators outside quotes and parentheses. -/
def spaceCombinators (d : Depth) : List Char → List Char
  | [] => []
  | c :: cs =>
    let rest := spaceCombinators (d.after c) cs
    if d = .outside ∧ isCombinator c then ' ' :: c :: ' ' :: rest else c :: rest

def tidy (cs : List Char) : String :=
  " ".intercalate ((Text.words (spaceCombinators .outside cs)).map .ofList)

def selectorsOf (cs : List Char) : List String :=
  (splitCommas .outside cs).map tidy

/-- An inner selector within an outer one. -/
def within (outer inner : String) : String :=
  if inner.toList.contains '&' then
    .ofList (inner.toList.flatMap fun c => if c = '&' then outer.toList else [c])
  else if outer = "" then inner
  else outer ++ " " ++ inner

/-- Every inner selector within every outer one. -/
def nest (outers : Option (List String)) (inners : List String) : List String :=
  match outers with
  | none => inners
  | some outers => inners.flatMap fun inner => outers.map fun outer => within outer inner

def isMedia (selector : List Char) : Bool :=
  "@media".toList.isPrefixOf selector

/-- The query with single blanks and none around colons or inside parentheses. -/
def tidyQuery (cs : List Char) : String :=
  let words := " ".intercalate ((Text.words cs).map .ofList)
  let rec squeeze : List Char → List Char
    | ' ' :: ':' :: rest => squeeze (':' :: rest)
    | ':' :: ' ' :: rest => squeeze (':' :: rest)
    | ' ' :: ')' :: rest => squeeze (')' :: rest)
    | '(' :: ' ' :: rest => squeeze ('(' :: rest)
    | c :: rest => c :: squeeze rest
    | [] => []
  .ofList (squeeze words.toList)

/-! ## Compilation -/

def declarations? (vars : Entries (List Char)) (items : List Item) :
    Option (List (String × String)) :=
  (items.filterMap fun
    | .declaration property value => some (property, value)
    | _ => none).mapM fun (property, value) =>
      (expand? vars vars.length value).map fun value => (property, .ofList value)

def define (vars : Entries (List Char)) (items : List Item) : Entries (List Char) :=
  items.foldl (fun vars item =>
    match item with
    | .variable name value => Entries.set vars name value
    | _ => vars) vars

def isMediaRule : Item → Bool
  | .rule selector _ => isMedia selector
  | _ => false

mutual

/-- The blocks of a rule: its own declarations, the rules in it, and those for media. -/
def compileItem? (vars : Entries (List Char)) (outers : Option (List String)) :
    Item → Option (List Block)
  | .rule selector items => do
    let selectors :=
      if isMedia selector then outers else some (nest outers (selectorsOf selector))
    let vars := define vars items
    let own ← declarations? vars items
    let inner ← compileItems? false vars selectors items
    let media ← compileItems? true vars selectors items
    let blocks := (if own = [] then [] else [.rule (selectors.getD []) own]) ++ inner ++ media
    return if isMedia selector then [.media (tidyQuery selector) blocks] else blocks
  | .variable _ _ | .declaration _ _ => some []

/-- The blocks of those rules that are for a medium, or of those that are not. -/
def compileItems? (media : Bool) (vars : Entries (List Char)) (outers : Option (List String)) :
    List Item → Option (List Block)
  | [] => some []
  | item :: items => do
    let blocks ← if isMediaRule item = media then compileItem? vars outers item else some []
    return blocks ++ (← compileItems? media vars outers items)

end

/-! ## Printing -/

/-- Every line but the first is set in by one space, and no spaces are left at the end. -/
def indent (cs : List Char) : List Char :=
  let body := cs.flatMap fun c => if c = '\n' then ['\n', ' '] else [c]
  (body.reverse.dropWhile (· == ' ')).reverse

mutual

def Block.print : Block → String
  | .rule selectors declarations =>
    ",\n".intercalate selectors ++ " \x7b\n" ++
      String.join (declarations.map fun d => " " ++ d.1 ++ ": " ++ d.2 ++ ";\n") ++ "\x7d\n"
  | .media query blocks =>
    query ++ " \x7b\n " ++ .ofList (indent (printBlocks blocks).toList) ++ "\x7d\n"

def printBlocks : List Block → String
  | [] => ""
  | block :: blocks => block.print ++ printBlocks blocks

end

/-- The style sheet of a source, none if it is not well formed or uses an undefined variable. -/
def compile? (source : String) : Option String := do
  let items ← read? source
  let vars := define [] items
  let blocks ← compileItems? false vars none items
  let media ← compileItems? true vars none items
  return trimmed (printBlocks (blocks ++ media))

end PageComponent.Less
