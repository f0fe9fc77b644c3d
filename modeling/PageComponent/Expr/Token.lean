import PageComponent.Text.Blank

/-!
# Tokens of the expression language

A source is a sequence of tokens with blanks between them. Each token is as long as it can be; a
text literal runs to the first quote of its own kind that no backslash precedes.
-/

namespace PageComponent

inductive TokenKind where
  | number
  | string
  | ident
  | trueWord
  | falseWord
  | nullWord
  | undefinedWord
  | plus
  | minus
  | star
  | slash
  | percent
  | eq
  | ne
  | strictEq
  | strictNe
  | lt
  | gt
  | le
  | ge
  | and
  | or
  | not
  | question
  | lparen
  | rparen
  | lbracket
  | rbracket
  | comma
  | dot
  | colon
  | eof
deriving DecidableEq

namespace TokenKind

def name : TokenKind → String
  | number => "number"
  | string => "string"
  | ident => "ident"
  | trueWord => "true"
  | falseWord => "false"
  | nullWord => "null"
  | undefinedWord => "undefined"
  | plus => "plus"
  | minus => "minus"
  | star => "star"
  | slash => "slash"
  | percent => "percent"
  | eq => "eq"
  | ne => "ne"
  | strictEq => "strict_eq"
  | strictNe => "strict_ne"
  | lt => "lt"
  | gt => "gt"
  | le => "le"
  | ge => "ge"
  | and => "and"
  | or => "or"
  | not => "not"
  | question => "question"
  | lparen => "lparen"
  | rparen => "rparen"
  | lbracket => "lbracket"
  | rbracket => "rbracket"
  | comma => "comma"
  | dot => "dot"
  | colon => "colon"
  | eof => "eof"

def keywords : List (List Char × TokenKind) :=
  [("true".toList, trueWord), ("false".toList, falseWord), ("null".toList, nullWord),
    ("undefined".toList, undefinedWord)]

/-- The spellings of operators and punctuation, longer ones first. -/
def operators : List (List Char × TokenKind) :=
  [("===".toList, strictEq), ("!==".toList, strictNe), ("==".toList, eq), ("!=".toList, ne),
    ("<=".toList, le), (">=".toList, ge), ("&&".toList, and), ("||".toList, or),
    ("+".toList, plus), ("-".toList, minus), ("*".toList, star), ("/".toList, slash),
    ("%".toList, percent), ("<".toList, lt), (">".toList, gt), ("!".toList, not),
    ("?".toList, question), ("(".toList, lparen), (")".toList, rparen), ("[".toList, lbracket),
    ("]".toList, rbracket), (",".toList, comma), (".".toList, dot), (":".toList, colon)]

end TokenKind

/-- The value of a text literal is its decoded content, that of any other token its spelling. -/
structure Token where
  kind : TokenKind
  value : String
  pos : Nat
deriving DecidableEq

inductive ScanFault where
  | unexpectedCharacter (c : Char)
  | unterminatedEscape
  | unterminatedText
deriving DecidableEq

structure ScanError where
  fault : ScanFault
  pos : Nat
deriving DecidableEq

/-- A token read off the front of a source, with the number of characters it spans. -/
structure Lexeme where
  kind : TokenKind
  value : List Char
  span : Nat

namespace Lexeme

def isIdentStart (c : Char) : Bool :=
  c.isAlpha || c == '_' || c == '$'

def isIdentPart (c : Char) : Bool :=
  c.isAlphanum || c == '_' || c == '$'

def unescape (c : Char) : Char :=
  if c = 'n' then '\n' else if c = 't' then '\t' else if c = 'r' then '\r' else c

/-- The content of a text literal from behind its opening quote, and the characters read, the
closing quote among them. The literal opens at `start` and `pos` is where the characters stand. -/
def readText (quote : Char) (start : Nat) : (pos : Nat) → List Char →
    Except ScanError (List Char × Nat)
  | _, [] => .error ⟨.unterminatedText, start⟩
  | pos, '\\' :: [] => .error ⟨.unterminatedEscape, pos⟩
  | pos, '\\' :: c :: cs => do
    let (content, n) ← readText quote start (pos + 2) cs
    return (unescape c :: content, n + 2)
  | pos, c :: cs =>
    if c = quote then .ok ([], 1)
    else do
      let (content, n) ← readText quote start (pos + 1) cs
      return (c :: content, n + 1)

/-- The longest number at the front; the point belongs to it only if a digit follows. -/
def numberPart (cs : List Char) : List Char :=
  let whole := cs.takeWhile Char.isDigit
  match cs.dropWhile Char.isDigit with
  | '.' :: d :: rest =>
    if d.isDigit then whole ++ '.' :: d :: rest.takeWhile Char.isDigit else whole
  | _ => whole

def startsNumber : List Char → Bool
  | '.' :: d :: _ => d.isDigit
  | c :: _ => c.isDigit
  | [] => false

/-- The token at the front of a source that begins with `c`, which is no blank. -/
def read (c : Char) (cs : List Char) (pos : Nat) : Except ScanError Lexeme :=
  if c = '"' ∨ c = '\'' then do
    let (content, n) ← readText c pos (pos + 1) cs
    return ⟨.string, content, n + 1⟩
  else if startsNumber (c :: cs) then
    let part := numberPart (c :: cs)
    .ok ⟨.number, part, part.length⟩
  else if isIdentStart c then
    let word := c :: cs.takeWhile isIdentPart
    .ok ⟨(TokenKind.keywords.lookup word).getD .ident, word, word.length⟩
  else match TokenKind.operators.find? (fun o => o.1.isPrefixOf (c :: cs)) with
    | some (spelling, kind) => .ok ⟨kind, spelling, spelling.length⟩
    | none => .error ⟨.unexpectedCharacter c, pos⟩

end Lexeme

namespace Token

/-- The tokens of `cs`, which stands at `pos` of the source. -/
def scan : (pos : Nat) → (cs : List Char) → Except ScanError (List Token)
  | _, [] => .ok []
  | pos, c :: cs =>
    if Text.isBlank c then scan (pos + 1) cs
    else do
      let lexeme ← Lexeme.read c cs pos
      let rest ← scan (pos + 1 + (lexeme.span - 1)) (cs.drop (lexeme.span - 1))
      return ⟨lexeme.kind, .ofList lexeme.value, pos⟩ :: rest
termination_by _ cs => cs.length
decreasing_by
  · simp
  · simp only [List.length_drop, List.length_cons]; omega

def ofSource (source : String) : Except ScanError (List Token) :=
  scan 0 source.toList

/-- The token that stands for the end of a source. -/
def stop (source : String) : Token :=
  ⟨.eof, "", source.length⟩

end Token

end PageComponent
