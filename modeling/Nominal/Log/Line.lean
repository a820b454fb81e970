import Nominal.Json
import Nominal.Log.Event
import Nominal.Text.Quoted

/-!
Log events as they are written, in text or in JSON. Neither form holds the time.
-/

namespace Nominal.Log

namespace FieldValue

/-- The value in a text line. -/
def inText : FieldValue → String
  | word s => Text.quote s
  | text s => s
  | count n => toString n

def toJson : FieldValue → Json
  | word s => .string s
  | text s => .string s
  | count n => .integer n

end FieldValue

namespace Event

/-- The message and the fields of an event as a JSON object. -/
def content (e : Event) : Json :=
  .object (("message",.string e.message) :: e.fields.map fun (name,v) => (name,v.toJson))

def toJson (e : Event) : Json :=
  .object [("level",.string e.level.label),("fields",e.content),("target",.string e.target)]

/-- The event in a text line: the level, right-aligned in five columns, the target, the message and
    the fields. -/
def toText (e : Event) : String :=
  let label := e.level.label
  let margin := String.ofList (List.replicate (5 - label.length) ' ')
  let fields := e.fields.map fun (name,v) => s!" {name}={v.inText}"
  s!"{margin}{label} {e.target}: {e.message}" ++ String.join fields

end Event

/-- What is written for one event. -/
inductive Line where
  | text (s : String)
  | json (j : Json)

end Nominal.Log
