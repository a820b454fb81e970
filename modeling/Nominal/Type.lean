/-!
The types of the expression language: nine primitive types, the type of the null literal, and class
types, which name a class by its position in a class table.
-/

namespace Nominal

/-- The primitive types. `void` is one of them, since a method may return it. -/
inductive Primitive where
  | boolean
  | byte
  | short
  | char
  | int
  | long
  | float
  | double
  | void
  deriving DecidableEq, Repr

namespace Primitive

/-- Every primitive type, in declaration order. -/
def all : List Primitive :=
  [boolean,byte,short,char,int,long,float,double,void]

/-- The reserved word that names the type in source text. -/
def keyword : Primitive → String
  | boolean => "boolean"
  | byte => "byte"
  | short => "short"
  | char => "char"
  | int => "int"
  | long => "long"
  | float => "float"
  | double => "double"
  | void => "void"

/-- The primitive type a word names, if it is a reserved word. -/
def ofKeyword? (word : String) : Option Primitive :=
  all.find? (·.keyword == word)

end Primitive

/-- A class, by its position in a class table. The table need not hold that position. Positions are numbers
    of any size; tables are taken to have fewer than 2 ^ 32 classes, so that 32 bits would do for them. -/
structure ClassId where
  index : Nat
  deriving DecidableEq, Repr

/-- A compile-time type. -/
inductive Ty where
  | primitive (p : Primitive)
  /-- The type of the null literal, below every class type. -/
  | null
  | object (c : ClassId)
  deriving DecidableEq, Repr

namespace Ty

def isPrimitive : Ty → Bool
  | primitive _ => true
  | _ => false

/-- Null and class types are reference types. -/
def isReference : Ty → Bool
  | primitive _ => false
  | null => true
  | object _ => true

/-- A type written as a constructor applied to its content, for inspection without a class table. -/
def describe : Ty → String
  | primitive p => s!"Primitive({p.keyword.capitalize})"
  | null => "Null"
  | object c => s!"Class(ClassId({c.index}))"

end Ty

end Nominal
