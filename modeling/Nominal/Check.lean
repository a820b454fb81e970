import Nominal.Inheritance
import Nominal.Log.Event

/-!
The checker. It visits every node once, the parts of a node before the node itself, and stops at the
first node that breaks its own rule. Each rule is a function of the types of the parts; the traversal
adds the events. The static type of an expression is read off without checking it: only the receivers of
method calls are looked into.
-/

namespace Nominal

namespace ClassTable

/-- The rule of an assignment: the value fits the declared type, which is the type of the whole. -/
def assignRule (t : ClassTable) (v : Var) (found : Ty) : Except TypeError Ty :=
  if t.isSubtype found v.type then .ok v.type
  else .error (.assignment v.name v.type found)

/-- Matches arguments against parameters: the counts first, then all types at once. -/
def matchArguments (t : ClassTable) (callee : Callee) (params found : List Ty) :
    Except TypeError Unit :=
  if params.length ≠ found.length then
    .error (.argumentCount callee params.length found.length)
  else if (found.zip params).all fun (arg,param) => t.isSubtype arg param then .ok ()
  else .error (.arguments callee params found)

/-- The rule of a method call, given the types of the receiver and of the arguments. -/
def callRule (t : ClassTable) (receiver : Ty) (name : String) (found : List Ty) :
    Except TypeError Ty := do
  let m ← t.lookupMethod receiver name
  t.matchArguments (.method receiver name) m.params found
  return m.returns

/-- The rule of a constructor call, given the types of the arguments: the target is below the root
    class and is a class of the table. -/
def newRule (t : ClassTable) (target : Ty) (found : List Ty) : Except TypeError Ty :=
  if t.isSubtype target t.objectType then
    match t.constructor? target with
    | some params => do
      t.matchArguments (.constructor target) params found
      return target
    | none => .error (.illegalInstantiation target)
  else .error (.illegalInstantiation target)

end ClassTable

/-- The result of a check and the events reported on the way, in order. -/
structure Outcome (α : Type) where
  events : List Log.Event
  result : Except TypeError α

namespace Outcome

/-- Goes on with the value of a success and stops at a failure. -/
def andThen {α β : Type} (first : Outcome α) (next : α → Outcome β) : Outcome β :=
  match first.result with
  | .error e => ⟨first.events,.error e⟩
  | .ok a =>
    let second := next a
    ⟨first.events ++ second.events,second.result⟩

instance : Monad Outcome where
  pure a := ⟨[],.ok a⟩
  bind := andThen

/-- The verdict of a rule at a node; a breach is reported there. -/
def judge (node : Expr.Kind) : Except TypeError Ty → Outcome Ty
  | .ok type => ⟨[],.ok type⟩
  | .error e => ⟨[.typeError node e],.error e⟩

/-- Closes the visit of a node by reporting how it went. -/
def close (node : Expr.Kind) (o : Outcome Ty) : Outcome Ty :=
  match o.result with
  | .ok type => ⟨o.events ++ [.wellTyped node],.ok type⟩
  | .error e => ⟨o.events ++ [.checkFailed node e.kind],.error e⟩

end Outcome

mutual

/-- Checks an expression: its type, or the error of the first node in post-order that breaks its
    rule. -/
def Expr.check (t : ClassTable) : Expr → Outcome Ty
  | .var v => .close .variable (pure v.type)
  | .literal _ type => .close .literal (pure type)
  | .null => .close .null (pure .null)
  | .assign v value => .close .assignment do
    let found ← value.check t
    .judge .assignment (t.assignRule v found)
  | .call receiver name args => .close .methodCall do
    let on ← receiver.check t
    let found ← Expr.checkAll t args
    .judge .methodCall (t.callRule on name found)
  | .new target args => .close .constructorCall do
    let found ← Expr.checkAll t args
    .judge .constructorCall (t.newRule target found)

/-- Checks expressions from left to right, up to the first that fails. -/
def Expr.checkAll (t : ClassTable) : List Expr → Outcome (List Ty)
  | [] => pure []
  | e :: rest => do
    let type ← e.check t
    let types ← Expr.checkAll t rest
    return type :: types

end

/-- Whether an expression is well typed; otherwise its error. -/
def Expr.verdict (t : ClassTable) (e : Expr) : Except TypeError Unit :=
  (e.check t).result.map fun _ => ()

namespace Expr

/-- The type an expression has if it is well typed. The one failure is a method call whose receiver
    has no method of that name. -/
def staticType (t : ClassTable) : Expr → Except TypeError Ty
  | var v => .ok v.type
  | literal _ type => .ok type
  | null => .ok .null
  | assign v _ => .ok v.type
  | call receiver name _ => do
    let on ← receiver.staticType t
    let m ← t.lookupMethod on name
    return m.returns
  | new target _ => .ok target

end Expr

end Nominal
