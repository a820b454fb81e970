import Nominal.ClassTable

/-!
Growing a class table: the built-in classes, and the operations that add a class, add a method and
set a constructor. A class names a superclass that is already there, so tables grown from `builtin`
have no cycles and no dangling links; a refused operation leaves the table as it was.
-/

namespace Nominal

/-- Why an operation on a class table is refused. -/
inductive RegistrationError where
  | duplicateClass (name : String)
  /-- The name is a keyword or `null`. -/
  | reservedName (name : String)
  | unknownClass (id : ClassId)
  /-- A class declares at most one method of a name: there is no overloading. -/
  | duplicateMethod (owner : String) (method : String)
  deriving DecidableEq, Repr

def RegistrationError.message : RegistrationError → String
  | duplicateClass name => s!"class `{name}` is already defined"
  | reservedName name => s!"`{name}` is a reserved type name"
  | unknownClass id => s!"unknown class id {id.index}"
  | duplicateMethod owner method => s!"method `{method}` is already declared on class `{owner}`"

/-- Names that denote a type in every table and so cannot name a class. -/
def isReserved (name : String) : Bool :=
  (Primitive.ofKeyword? name).isSome || name == "null"

namespace ClassTable

/-- The table of the built-in classes: the root class and the string class. -/
def builtin : ClassTable :=
  let object : ClassId := ⟨0⟩
  let string : ClassId := ⟨1⟩
  { object, string
    classes :=
      [{ name := "Object"
         superclass := none
         methods :=
           [⟨"equals",[.object object],.primitive .boolean⟩,
            ⟨"hashCode",[],.primitive .int⟩,
            ⟨"toString",[],.object string⟩]
         constructor := [] },
       { name := "String"
         superclass := some object
         methods :=
           [⟨"length",[],.primitive .int⟩,
            ⟨"isEmpty",[],.primitive .boolean⟩,
            ⟨"charAt",[.primitive .int],.primitive .char⟩,
            ⟨"concat",[.object string],.object string⟩]
         constructor := [] }] }

/-- Adds a class at the end of the table, with no methods and a constructor without parameters, unless
    another class bears the name. Without a given superclass the root class is taken. -/
def addClassUnless (t : ClassTable) (bearer : Option ClassId) (name : String) (superclass : Option ClassId) :
    Except RegistrationError (ClassTable × ClassId) :=
  if isReserved name then .error (.reservedName name)
  else if bearer.isSome then .error (.duplicateClass name)
  else
    let parent := superclass.getD t.object
    match t.get? parent with
    | none => .error (.unknownClass parent)
    | some _ =>
      .ok ({ t with classes := t.classes ++ [⟨name,some parent,[],[]⟩] }, ⟨t.classes.length⟩)

/-- Adds a class whose name is new to the table. -/
def addClass (t : ClassTable) (name : String) (superclass : Option ClassId) :
    Except RegistrationError (ClassTable × ClassId) :=
  t.addClassUnless (t.find? name) name superclass

/-- The table with the declaration at a position replaced. -/
def put (t : ClassTable) (c : ClassId) (d : ClassDecl) : ClassTable :=
  { t with classes := t.classes.set c.index d }

/-- Declares a method on a class. An inherited method of that name is shadowed; a second one on the
    same class is refused. -/
def addMethod (t : ClassTable) (c : ClassId) (m : Method) : Except RegistrationError ClassTable :=
  match t.get? c with
  | none => .error (.unknownClass c)
  | some d =>
    match d.declared? m.name with
    | some _ => .error (.duplicateMethod d.name m.name)
    | none => .ok (t.put c { d with methods := d.methods ++ [m] })

/-- Replaces the parameter types of the constructor of a class. -/
def setConstructor (t : ClassTable) (c : ClassId) (params : List Ty) :
    Except RegistrationError ClassTable :=
  match t.get? c with
  | none => .error (.unknownClass c)
  | some d => .ok (t.put c { d with constructor := params })

end ClassTable

end Nominal
