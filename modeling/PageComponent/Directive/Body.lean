import PageComponent.Directive.TopLevel
import PageComponent.Json.Reader

/-!
# Bodies of directives

The body of a class directive pairs class names with conditions, that of a style directive maps
properties to expressions. A body that cannot be read has no entries.
-/

namespace PageComponent

/-- Class names and the source of the condition under which an element has them. -/
structure ClassPair where
  names : String
  condition : String
deriving DecidableEq

namespace Text

/-- The text without the quotes around it, if both ends are the same quote. -/
def unquote (cs : List Char) : List Char :=
  match cs with
  | q :: rest =>
    if Nesting.isQuote q ∧ rest ≠ [] ∧ rest.getLast? = some q then rest.dropLast else cs
  | [] => []

/-- The text between the braces that enclose it, all of it if none do. -/
def unbrace (cs : List Char) : List Char :=
  match cs with
  | '{' :: rest => if rest.getLast? = some '}' then rest.dropLast else cs
  | _ => cs

end Text

namespace ClassPair

/-- An entry without a colon at its top level is none. -/
def ofEntry? (entry : List Char) : Option ClassPair :=
  (Text.findTopLevel? ':' entry).map fun i =>
    { names := .ofList (Text.unquote (Text.trim (entry.take i)))
      condition := .ofList (Text.trim (entry.drop (i + 1))) }

def ofBody (body : String) : List ClassPair :=
  (Text.splitTopLevel ',' (Text.unbrace (Text.trim body.toList))).filterMap ofEntry?

end ClassPair

namespace StyleMap

def isBareKey (c : Char) : Bool :=
  c.isAlphanum || c == '_' || c == '-'

/-- Puts quotes around every bare key before a colon, and drops the blanks between. -/
def quoteKeys : List Char → List Char
  | [] => []
  | c :: cs =>
    if isBareKey c then
      let key := c :: cs.takeWhile isBareKey
      let rest := cs.dropWhile isBareKey
      match _h : rest.dropWhile Text.isBlank with
      | ':' :: after => '"' :: key ++ '"' :: ':' :: quoteKeys after
      | _ => key ++ quoteKeys rest
    else c :: quoteKeys cs
termination_by cs => cs.length
decreasing_by
  · have h₁ : ((cs.dropWhile isBareKey).dropWhile Text.isBlank).length = _ :=
      congrArg List.length _h
    have h₂ := (List.dropWhile_sublist (l := cs.dropWhile isBareKey) Text.isBlank).length_le
    have h₃ := (List.dropWhile_sublist (l := cs) isBareKey).length_le
    simp only [List.length_cons] at h₁ ⊢
    omega
  · have := (List.dropWhile_sublist (l := cs) isBareKey).length_le
    simp only [List.length_cons]
    omega
  · simp

/-- The body as JSON: bare keys get quotes and single quotes become double ones. -/
def toJson (body : List Char) : List Char :=
  (quoteKeys body).map fun c => if c = '\'' then '"' else c

/-- The properties of a style directive; texts among them are sources of expressions. -/
def ofBody (body : String) : Entries Value :=
  match Json.read (.ofList (toJson body.toList)) with
  | .ok (.mapping properties) => properties
  | _ => []

end StyleMap

end PageComponent
