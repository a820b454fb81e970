import Nominal.Type

/-!
Expression trees. The declared type of every variable and literal is part of the tree, so an
expression is checked without a scope.
-/

namespace Nominal

/-- A variable with its declared type. -/
structure Var where
  name : String
  type : Ty
  deriving DecidableEq, Repr

inductive Expr where
  /-- A variable that is read. -/
  | var (v : Var)
  /-- A literal, by its source text and its type. -/
  | literal (text : String) (type : Ty)
  | null
  | assign (v : Var) (value : Expr)
  | call (receiver : Expr) (name : String) (args : List Expr)
  | new (target : Ty) (args : List Expr)
  deriving Repr

namespace Expr

/-- The forms of an expression. -/
inductive Kind where
  | variable
  | literal
  | null
  | assignment
  | methodCall
  | constructorCall
  deriving DecidableEq, Repr

def Kind.name : Kind → String
  | .variable => "variable"
  | .literal => "literal"
  | .null => "null"
  | .assignment => "assignment"
  | .methodCall => "method call"
  | .constructorCall => "constructor call"

def kind : Expr → Kind
  | var _ => .variable
  | literal .. => .literal
  | null => .null
  | assign .. => .assignment
  | call .. => .methodCall
  | new .. => .constructorCall

end Expr

end Nominal
