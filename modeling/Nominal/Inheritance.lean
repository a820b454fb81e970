import Nominal.ClassTable
import Nominal.TypeError

/-!
What a class has from its superclasses: the superclass chain, the subtype test and the look-up of members.
The chain is defined for every table: it ends where a class has no superclass, after a position the table
does not hold, and before a class it has already met. Methods are searched along the chain, a constructor
belongs to its own class only.
-/

namespace Nominal.ClassTable

/-- The chain from a class on, leaving out whatever follows a class in `seen`; `fuel` bounds its
    length. -/
def chain (t : ClassTable) : (fuel : Nat) → (seen : List ClassId) → ClassId → List ClassId
  | 0, _, _ => []
  | fuel + 1, seen, c =>
    if c ∈ seen then []
    else
      c :: match t.superclass? c with
        | none => []
        | some parent => chain t fuel (c :: seen) parent

/-- A class followed by its superclasses, nearest first. All but the last are classes of the table,
    and none repeats, so the bound on the length is never felt. -/
def ancestors (t : ClassTable) (c : ClassId) : List ClassId :=
  t.chain (t.classes.length + 1) [] c

/-- The subtype test: a type is below itself, null is below every class type, and a class is below
    the classes of its superclass chain. -/
def isSubtype (t : ClassTable) (sub sup : Ty) : Bool :=
  sub == sup ||
    match sub, sup with
    | .null, .object _ => true
    | .object c, .object d => (t.ancestors c).contains d
    | _, _ => false

/-! ### Members -/

/-- The method of the given name on the nearest class of the receiver's chain that declares one.
    Primitive types and null have no methods. -/
def lookupMethod (t : ClassTable) (receiver : Ty) (name : String) : Except TypeError Method :=
  match receiver with
  | .object c =>
    match (t.ancestors c).findSome? (t.declared? · name) with
    | some m => .ok m
    | none => .error (.noSuchMethod receiver name)
  | _ => .error (.noSuchMethod receiver name)

/-- The parameter types of the constructor of a class of the table. Other types have none. -/
def constructor? (t : ClassTable) : Ty → Option (List Ty)
  | .object c => (t.get? c).map (·.constructor)
  | _ => none

end Nominal.ClassTable
