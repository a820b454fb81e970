import Nominal.Type

/-!
The errors of the checker. Their content is types and names only; the text that spells out the
types needs a class table and is in `Nominal.Diagnostic`.
-/

namespace Nominal

/-- What a call is matched against. -/
inductive Callee where
  | method (receiver : Ty) (name : String)
  | constructor (target : Ty)
  deriving DecidableEq, Repr

/-- The callee without its types. -/
def Callee.summary : Callee → String
  | method _ name => s!"method `{name}`"
  | constructor _ => "constructor"

/-- A static error of one node of an expression. -/
inductive TypeError where
  /-- The value assigned does not fit the declared type of the variable. -/
  | assignment (place : String) (expected found : Ty)
  /-- Some argument does not fit its parameter. The whole lists are kept, of equal length. -/
  | arguments (callee : Callee) (expected found : List Ty)
  | argumentCount (callee : Callee) (expected found : Nat)
  | illegalInstantiation (target : Ty)
  | noSuchMethod (receiver : Ty) (name : String)
  deriving DecidableEq, Repr

namespace TypeError

/-- The four kinds of error that are told apart by a code. -/
inductive Kind where
  | typeMismatch
  | argumentCountMismatch
  | illegalInstantiation
  | noSuchMethod
  deriving DecidableEq, Repr

namespace Kind

def name : Kind → String
  | typeMismatch => "TypeMismatch"
  | argumentCountMismatch => "ArgumentCountMismatch"
  | illegalInstantiation => "IllegalInstantiation"
  | noSuchMethod => "NoSuchMethod"

/-- The code under which the kind is shown to a user. -/
def code : Kind → String
  | typeMismatch => "TYPE_MISMATCH"
  | argumentCountMismatch => "ARGUMENT_COUNT"
  | illegalInstantiation => "ILLEGAL_INSTANTIATION"
  | noSuchMethod => "NO_SUCH_METHOD"

end Kind

def kind : TypeError → Kind
  | assignment .. => .typeMismatch
  | arguments .. => .typeMismatch
  | argumentCount .. => .argumentCountMismatch
  | illegalInstantiation _ => .illegalInstantiation
  | noSuchMethod .. => .noSuchMethod

/-- The error in one line that names no type. -/
def summary : TypeError → String
  | assignment place _ _ => s!"incompatible types in assignment to variable `{place}`"
  | arguments callee _ _ => s!"incompatible types in arguments of {callee.summary}"
  | argumentCount callee expected found =>
    s!"wrong number of arguments for {callee.summary}: expected {expected}, got {found}"
  | illegalInstantiation _ => "type is not instantiable"
  | noSuchMethod _ name => s!"no method named `{name}` on receiver type"

end TypeError

end Nominal
