import Nominal.Type

/-!
Class tables: a finite list of class declarations, in which a class is named by its position, and
two well-known classes. Nothing here is validated: links may dangle or form cycles, and names may
repeat. Tables grown by registration (`Nominal.Registration`) have neither defect. Classes that are known
by other identifiers are numbered first, in any order; identifiers that belong to no class then become
positions that the table does not hold.
-/

namespace Nominal

/-- The signature of a method. -/
structure Method where
  name : String
  params : List Ty
  returns : Ty
  deriving DecidableEq, Repr

/-- A class: its name, its superclass if it has one, its own methods in declaration order and the
    parameter types of its single constructor. -/
structure ClassDecl where
  name : String
  superclass : Option ClassId
  methods : List Method
  constructor : List Ty
  deriving DecidableEq, Repr

/-- The method a class declares itself under the given name; its ancestors are not searched. -/
def ClassDecl.declared? (d : ClassDecl) (name : String) : Option Method :=
  d.methods.find? (·.name == name)

/-- The classes in scope, and which of them are the root class and the string class. -/
structure ClassTable where
  classes : List ClassDecl
  object : ClassId
  string : ClassId
  deriving DecidableEq, Repr

namespace ClassTable

/-- The declaration at a position. -/
def get? (t : ClassTable) (c : ClassId) : Option ClassDecl :=
  t.classes[c.index]?

/-- The recorded superclass of a class; none for a class without one and for an unknown class. -/
def superclass? (t : ClassTable) (c : ClassId) : Option ClassId :=
  (t.get? c).bind (·.superclass)

/-- The first class of the given name. -/
def find? (t : ClassTable) (name : String) : Option ClassId :=
  (t.classes.findIdx? (·.name == name)).map ClassId.mk

/-- The type a source name stands for: a keyword, then `null`, then a class. -/
def resolve? (t : ClassTable) (name : String) : Option Ty :=
  match Primitive.ofKeyword? name with
  | some p => some (.primitive p)
  | none => if name = "null" then some .null else (t.find? name).map .object

/-- The method a class of the table declares itself; none for an unknown class. -/
def declared? (t : ClassTable) (c : ClassId) (name : String) : Option Method :=
  (t.get? c).bind (·.declared? name)

/-- The type of the root class. -/
def objectType (t : ClassTable) : Ty := .object t.object

/-- The type of the string class. -/
def stringType (t : ClassTable) : Ty := .object t.string

/-- The classes with their positions, in order. -/
def entries (t : ClassTable) : List (ClassId × ClassDecl) :=
  t.classes.zipIdx.map fun (d,i) => (⟨i⟩,d)

end ClassTable

end Nominal
