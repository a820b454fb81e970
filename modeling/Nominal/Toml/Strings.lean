import Nominal.Toml.Number

/-!
Strings as TOML writes them: basic ones with escapes and literal ones without, on one line or on
several. A line break inside a string reads as a line feed.
-/

namespace Nominal.Toml

open Reader

namespace Strings

/-- Characters that may stand for themselves in every string, quotes and backslash apart. -/
def isPlain (c : Char) : Bool := c = '\t' || (' ' ≤ c && c ≠ '\x7f')

/-- A line break: a line feed, or a carriage return with a line feed. -/
def newline : Reader Unit := word "\n" <|> word "\r\n"

def isGap (c : Char) : Bool := c = ' ' || c = '\t'

/-- A character given by exactly so many hexadecimal digits. Surrogates are not characters. -/
def codePoint (count : Nat) : Reader Char := do
  let digits : List Char ← fun cs => some (cs.take count,cs.drop count)
  let n := Number.ofDigits 16 digits
  if digits.length = count ∧ digits.all Number.isHexDigit ∧ n.isValidChar then return Char.ofNat n
  else failure

/-- An escape after its backslash. -/
def escape : Reader Char := do
  char '\\'
  match ← next fun _ => true with
  | 'b' => return '\x08'
  | 't' => return '\t'
  | 'n' => return '\n'
  | 'f' => return '\x0c'
  | 'r' => return '\r'
  | '"' => return '"'
  | '\\' => return '\\'
  | 'u' => codePoint 4
  | 'U' => codePoint 8
  | _ => failure

def isBasic (c : Char) : Bool := isPlain c && c ≠ '"' && c ≠ '\\'

def isLiteral (c : Char) : Bool := isPlain c && c ≠ '\''

/-- A string in double quotes on one line. -/
def basic : Reader (List Char) := do
  char '"'
  let pieces ← many (run1 isBasic <|> (do return [← escape]))
  char '"'
  return pieces.flatten

/-- A string in single quotes on one line. -/
def literal : Reader (List Char) := do
  char '\''
  let text ← run isLiteral
  char '\''
  return text

/-- A line break as it reads inside a string. -/
def lineBreak : Reader (List Char) := do
  newline
  return ['\n']

/-- A backslash at the end of a line joins it to the next text. -/
def joint : Reader (List Char) := do
  char '\\'
  let _ ← run isGap
  newline
  let _ ← many ((do let _ ← run1 isGap) <|> newline)
  return []

/-- One or two quotes that do not end the string, since other content follows them. -/
def innerQuotes (quote : Char) (content : Reader (List Char)) : Reader (List Char) := do
  char quote
  let second ← accept quote
  let after ← content
  return (if second then [quote,quote] else [quote]) ++ after

/-- A string of several lines: three quotes, content in which fewer than three quotes stand together,
    and three quotes, before which up to two more belong to the string. A line break right after the
    opening quotes is dropped. -/
def multiline (quote : Char) (content : Reader (List Char)) : Reader (List Char) := do
  char quote
  char quote
  char quote
  let _ ← optional newline
  let pieces ← many (content <|> innerQuotes quote content)
  char quote
  char quote
  char quote
  let fourth ← accept quote
  let fifth ← if fourth then accept quote else pure false
  return pieces.flatten ++ (if fourth then [quote] else []) ++ (if fifth then [quote] else [])

def basicContent : Reader (List Char) :=
  run1 isBasic <|> joint <|> (do return [← escape]) <|> lineBreak

def literalContent : Reader (List Char) := run1 isLiteral <|> lineBreak

end Strings

/-- A string of any of the four forms. -/
def string : Reader (List Char) :=
  Strings.multiline '"' Strings.basicContent <|> Strings.multiline '\'' Strings.literalContent <|>
    Strings.basic <|> Strings.literal

end Nominal.Toml
