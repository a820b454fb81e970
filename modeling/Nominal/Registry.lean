import Nominal.Registration

/-!
Class tables under construction. A registry keeps an index of the names of its classes beside the
table, so that a class is found by its name without a search. It changes by operations, and a refused
operation changes nothing.
-/

namespace Nominal

/-- A request to change a class table. Its arguments may be anything. -/
inductive Operation where
  | addClass (name : String) (superclass : Option ClassId)
  | addMethod (c : ClassId) (m : Method)
  | setConstructor (c : ClassId) (params : List Ty)
  deriving DecidableEq, Repr

/-- A class table with an index of its names. -/
structure Registry where
  table : ClassTable
  /-- Positions by name. Of several entries for a name the first counts. -/
  index : List (String × ClassId)
  deriving DecidableEq, Repr

namespace Registry

/-- The registry of a given table, with every class entered under its name. -/
def ofTable (t : ClassTable) : Registry :=
  ⟨t,t.entries.map fun (c,d) => (d.name,c)⟩

/-- The registry of the built-in classes. -/
def builtin : Registry := ofTable .builtin

/-- The class entered under a name. -/
def classId? (r : Registry) (name : String) : Option ClassId := r.index.lookup name

/-- The type a source name stands for: a keyword, then `null`, then the class entered under it. -/
def resolve? (r : Registry) (name : String) : Option Ty :=
  match Primitive.ofKeyword? name with
  | some p => some (.primitive p)
  | none => if name = "null" then some .null else (r.classId? name).map .object

/-- The registry after an operation, or why the operation is refused. Whether the name of a new class is
    taken is read off the index, in which the class is then entered. -/
def apply (r : Registry) : Operation → Except RegistrationError Registry
  | .addClass name superclass =>
    (r.table.addClassUnless (r.classId? name) name superclass).map fun (t,c) => ⟨t,(name,c) :: r.index⟩
  | .addMethod c m => (r.table.addMethod c m).map fun t => { r with table := t }
  | .setConstructor c params => (r.table.setConstructor c params).map fun t => { r with table := t }

/-- The registry after an operation that may have been refused. -/
def step (r : Registry) (op : Operation) : Registry :=
  match r.apply op with
  | .ok next => next
  | .error _ => r

/-- The registry after some operations, one after another. -/
def run (r : Registry) (ops : List Operation) : Registry := ops.foldl step r

end Registry

end Nominal
