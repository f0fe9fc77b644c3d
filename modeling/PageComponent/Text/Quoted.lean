import PageComponent.Text.Digit
import PageComponent.Text.Printable

/-!
# Quoted text

Text is quoted in single quotes, or in double quotes if it holds a single quote and no double one.
The quote, the backslash, line ends and tabs take a backslash; a character that is not printable
is written by its code point in hexadecimal.
-/

namespace PageComponent.Text

def quoteFor (cs : List Char) : Char :=
  if cs.contains '\'' && !cs.contains '"' then '"' else '\''

def escapeCodePoint (n : Nat) : List Char :=
  if n < 0x100 then '\\' :: 'x' :: paddedDigits 16 2 n
  else if n < 0x10000 then '\\' :: 'u' :: paddedDigits 16 4 n
  else '\\' :: 'U' :: paddedDigits 16 8 n

def escapeIn (quote : Char) (c : Char) : List Char :=
  if c = quote ∨ c = '\\' then ['\\', c]
  else if c = '\n' then ['\\', 'n']
  else if c = '\r' then ['\\', 'r']
  else if c = '\t' then ['\\', 't']
  else if isPrintable c then [c]
  else escapeCodePoint c.toNat

def quote (cs : List Char) : List Char :=
  let q := quoteFor cs
  q :: cs.flatMap (escapeIn q) ++ [q]

end PageComponent.Text

namespace PageComponent

def quoted (s : String) : String :=
  .ofList (Text.quote s.toList)

end PageComponent
