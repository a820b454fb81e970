import Nominal.Check

/-!
Text for a user: types by their names in a class table, errors with every type spelt out, and
diagnostics, which pair such a text with the code of the error.
-/

namespace Nominal

namespace ClassTable

/-- The name of a type; a class the table does not hold is shown by its position. -/
def typeName (t : ClassTable) : Ty → String
  | .primitive p => p.keyword
  | .null => "null"
  | .object c =>
    match t.get? c with
    | some d => d.name
    | none => s!"<unknown#{c.index}>"

/-- The names of types in parentheses, with commas between them. -/
def typeNames (t : ClassTable) (types : List Ty) : String :=
  "(" ++ ", ".intercalate (types.map t.typeName) ++ ")"

/-- The callee with its type spelt out. -/
def calleeName (t : ClassTable) : Callee → String
  | .method receiver name => s!"{t.typeName receiver}.{name}()"
  | .constructor target => s!"{t.typeName target} constructor"

/-- The message of an error, with every type in it spelt out. -/
def explain (t : ClassTable) : TypeError → String
  | .assignment place expected found =>
    s!"Cannot assign {t.typeName found} to variable {place} of type {t.typeName expected}"
  | .arguments callee expected found =>
    s!"{t.calleeName callee} expects arguments of type {t.typeNames expected}, " ++
      s!"but got {t.typeNames found}"
  | .argumentCount callee expected found =>
    s!"Wrong number of arguments for {t.calleeName callee}: expected {expected}, got {found}"
  | .illegalInstantiation target => s!"Type {t.typeName target} is not instantiable"
  | .noSuchMethod receiver name => s!"{t.typeName receiver} has no method named {name}"

end ClassTable

/-- A finding of the checker, ready to be shown. -/
structure Diagnostic where
  code : String
  message : String
  deriving DecidableEq, Repr

namespace Diagnostic

def display (d : Diagnostic) : String := s!"error[{d.code}]: {d.message}"

/-- The diagnostic of an error. -/
def ofError (t : ClassTable) (e : TypeError) : Diagnostic := ⟨e.kind.code,t.explain e⟩

end Diagnostic

/-- The diagnostics of independent expressions: at most one for each, and a failing expression does
    not stop those after it. -/
def diagnose (t : ClassTable) (exprs : List Expr) : List Diagnostic :=
  exprs.filterMap fun e =>
    match (e.check t).result with
    | .ok _ => none
    | .error err => some (.ofError t err)

/-- The events reported by diagnosing: those of every check, one after another. -/
def diagnoseEvents (t : ClassTable) (exprs : List Expr) : List Log.Event :=
  exprs.flatMap fun e => (e.check t).events

end Nominal
