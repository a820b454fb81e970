import Nominal.Toml.Strings
import Nominal.Toml.Table

/-!
Whole TOML documents: values, keys, headers and lines. A document either has exactly one reading or
is refused; no part of a refused document is kept.
-/

namespace Nominal.Toml

open Reader

namespace Document

/-- Spaces and tabs within a line. -/
def spaces : Reader Unit := do
  let _ ← run Strings.isGap

/-- A comment up to the end of its line. -/
def comment : Reader Unit := do
  char '#'
  let _ ← run Strings.isPlain

/-- What may stand between the items of an array: spaces, line breaks and comments. -/
def filler : Reader Unit := do
  let _ ← many
    ((do let _ ← run1 Strings.isGap) <|> Strings.newline <|> (do comment; Strings.newline))

/-- The longest path a key may have, and the deepest that arrays and inline tables may nest. -/
def depthLimit : Nat := 79

def isBareKey (c : Char) : Bool := c.isAlphanum || c = '-' || c = '_'

/-- One step of a key: bare, or quoted on one line. -/
def simpleKey : Reader String := do
  return String.ofList (← Strings.basic <|> Strings.literal <|> run1 isBareKey)

/-- A key: the steps of its path and its last step. -/
def key : Reader (List String × String) := do
  let step : Reader String := do
    spaces
    let k ← simpleKey
    spaces
    return k
  let first ← step
  let more ← many (do char '.'; step)
  let steps := first :: more
  if depthLimit < steps.length then failure
  return (steps.dropLast,more.getLastD first)

/-- The items of an array after its opening bracket or after a comma. -/
def items (item : Reader Value) : (fuel : Nat) → Reader (List Value)
  | 0 => failure
  | fuel + 1 => do
    filler
    if ← accept ']' then return []
    let v ← item
    filler
    if ← accept ']' then return [v]
    char ','
    return v :: (← items item fuel)

/-- An array; a comma may follow its last item. -/
def array (item : Reader Value) : Reader Value := do
  char '['
  let found : List Value ← fun cs => items item (cs.length + 1) cs
  return .array found

/-- A key with its value, as in a line or in an inline table. -/
def pair (item : Reader Value) : Reader (List String × String × Value) := do
  let (path,last) ← key
  char '='
  spaces
  let v ← item
  spaces
  return (path,last,v)

/-- The table that the pairs of an inline table make up. -/
def inlineEntries (pairs : List (List String × String × Value)) : Option (List (String × Value)) := do
  let es ← pairs.foldlM (fun es (path,last,v) => Entries.assign path last v .declared es) []
  return Node.finishEntries es

/-- An inline table, on one line and without a comma after its last pair. -/
def inlineTable (item : Reader Value) : Reader Value := do
  char '\x7b'
  let first ← optional (pair item)
  let pairs ← match first with
    | none => pure []
    | some p => do
      let more ← many (do char ','; pair item)
      pure (p :: more)
  spaces
  char '\x7d'
  let es : List (String × Value) ← fun cs => (inlineEntries pairs).map (·,cs)
  return .table es

/-- A value whose items, if it has any, are read by `item`. -/
def valueOf (item : Option (Reader Value)) : Reader Value := fun cs =>
  match cs with
  | '"' :: _ => (do return .string (String.ofList (← string)) : Reader Value) cs
  | '\'' :: _ => (do return .string (String.ofList (← string)) : Reader Value) cs
  | '[' :: _ => (do array (← fun cs => item.map (·,cs)) : Reader Value) cs
  | '\x7b' :: _ => (do inlineTable (← fun cs => item.map (·,cs)) : Reader Value) cs
  | 't' :: _ => (do word "true"; return .boolean true : Reader Value) cs
  | 'f' :: _ => (do word "false"; return .boolean false : Reader Value) cs
  | _ => numeral cs

/-- A value in which arrays and inline tables nest at most so deep. -/
def value : (depth : Nat) → Reader Value
  | 0 => valueOf none
  | depth + 1 => valueOf (some (value depth))

/-- The end of a line after a statement. -/
def lineEnd : Reader Unit := do
  spaces
  let _ ← optional comment
  Strings.newline <|> finished

def statement : Reader Statement :=
  (do
    char '['
    char '['
    let (path,last) ← key
    char ']'
    char ']'
    lineEnd
    return .element path last) <|>
  (do
    char '['
    let (path,last) ← key
    char ']'
    lineEnd
    return .table path last) <|>
  (do
    let (path,last,v) ← pair (value depthLimit)
    lineEnd
    return .assign path last v)

/-- A line: empty, a comment or a statement. -/
def line : Reader (Option Statement) := do
  let found ←
    (do Strings.newline; return none) <|>
    (do comment; Strings.newline <|> finished; return none) <|>
    (some <$> statement)
  spaces
  return found

/-- The statements of a document. A byte order mark at its start is skipped. -/
def statements : Reader (List Statement) := do
  let _ ← accept '\ufeff'
  spaces
  let lines ← many line
  finished
  return lines.filterMap id

end Document

/-- The entries of a document, in order; none if the text is not a TOML document. -/
def parse? (text : String) : Option (List (String × Value)) := do
  let (statements,_) ← Document.statements text.toList
  let draft ← Draft.empty.addAll statements
  return draft.finish

end Nominal.Toml
