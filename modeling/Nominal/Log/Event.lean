import Nominal.Expr
import Nominal.TypeError

/-!
Log events: what the checker, the construction of a class table and the set-up of logging report.
An event has a level, a target that names its source, a message and named fields.
-/

namespace Nominal.Log

/-- The importance of an event, from the gravest on. -/
inductive Level where
  | error
  | warn
  | info
  | debug
  | trace
  deriving DecidableEq, Repr

namespace Level

/-- Every level, from the gravest on. -/
def all : List Level := [error,warn,info,debug,trace]

/-- One for the gravest level, five for the most verbose. -/
def verbosity : Level → Nat
  | error => 1
  | warn => 2
  | info => 3
  | debug => 4
  | trace => 5

def label : Level → String
  | error => "ERROR"
  | warn => "WARN"
  | info => "INFO"
  | debug => "DEBUG"
  | trace => "TRACE"

end Level

/-- The value of a field. Words stand in quotes in a text line; other text and numbers stand bare. -/
inductive FieldValue where
  | word (text : String)
  | text (text : String)
  | count (n : Nat)
  deriving DecidableEq, Repr

/-- What is reported. -/
inductive Event where
  /-- A node of an expression passed its check. -/
  | wellTyped (node : Expr.Kind)
  /-- The node itself broke its rule. -/
  | typeError (node : Expr.Kind) (error : TypeError)
  /-- A node failed, by its own error or by that of a part of it. -/
  | checkFailed (node : Expr.Kind) (kind : TypeError.Kind)
  /-- A class table was made from so many configured classes. -/
  | tableBuilt (classes : Nat)
  /-- The configured log file could not be opened. -/
  | logFileUnavailable (path : String)
  deriving DecidableEq, Repr

namespace Event

def level : Event → Level
  | wellTyped _ => .trace
  | typeError .. => .debug
  | checkFailed .. => .trace
  | tableBuilt _ => .debug
  | logFileUnavailable _ => .warn

def target : Event → String
  | wellTyped _ => "nova.typeck"
  | typeError .. => "nova.typeck"
  | checkFailed .. => "nova.typeck"
  | tableBuilt _ => "nova.config"
  | logFileUnavailable _ => "nova.config"

def message : Event → String
  | wellTyped _ => "well-typed"
  | typeError .. => "type error"
  | checkFailed .. => "check failed"
  | tableBuilt _ => "built type store from class table"
  | logFileUnavailable _ => "failed to open log file; file logging is disabled"

/-- The fields beside the message, in the order in which they are written. -/
def fields : Event → List (String × FieldValue)
  | wellTyped node => [("expr",.word node.name)]
  | typeError node e =>
    [("expr",.word node.name),("kind",.text e.kind.name),("error",.text e.summary)]
  | checkFailed node kind => [("expr",.word node.name),("kind",.text kind.name)]
  | tableBuilt n => [("classes",.count n)]
  | logFileUnavailable path => [("path",.text path)]

end Event

end Nominal.Log
