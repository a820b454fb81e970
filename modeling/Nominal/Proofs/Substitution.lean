import Nominal.Proofs.FirstError
import Nominal.Proofs.SubtypeOrder

/-!
An expression of a subtype in the place of another. The value of an assignment and the arguments of a call
are matched against declared types, so what fits stays fitting when its type goes down, and the type of the
whole does not change: it is declared as well. The place of a receiver is different, since a subclass may
declare a method of the same name with another type.
-/

namespace Nominal

/-- A node with one of its parts left open. -/
inductive Frame where
  /-- The value of an assignment. -/
  | value (v : Var)
  /-- The receiver of a method call. -/
  | receiver (name : String) (args : List Expr)
  /-- An argument of a method call, between others. -/
  | argument (receiver : Expr) (name : String) (before after : List Expr)
  /-- An argument of a constructor call, between others. -/
  | newArgument (target : Ty) (before after : List Expr)

namespace Frame

/-- The node with an expression in the open place. -/
def fill : Frame → Expr → Expr
  | value v, e => .assign v e
  | receiver name args, e => .call e name args
  | argument on name before after, e => .call on name (before ++ e :: after)
  | newArgument target before after, e => .new target (before ++ e :: after)

/-- The open place is that of a value or of an argument. -/
def IsOperand : Frame → Prop
  | receiver .. => False
  | _ => True

end Frame

/-- An expression with an open place for a value or for an argument, at any depth. -/
structure OperandContext where
  /-- The node whose part is left open. -/
  place : Frame
  operand : place.IsOperand
  /-- The nodes around it, from the smallest to the whole. -/
  around : List Frame

/-- The whole expression with an expression in the open place. -/
def OperandContext.fill (context : OperandContext) (e : Expr) : Expr :=
  context.around.foldl (fun inner frame => frame.fill inner) (context.place.fill e)

/-- Whatever type the second expression has, the first has a type below it. -/
def StandsFor (t : ClassTable) (other e : Expr) : Prop :=
  ∀ high, HasType t e high → ∃ low, HasType t other low ∧ t.Below low high

section
variable {t : ClassTable} {e other : Expr} {type : Ty}

theorem standsFor_self (t : ClassTable) (e : Expr) : StandsFor t e e :=
  fun high typed => ⟨high,typed,.refl high⟩

/-- Arguments that stand for others have types below theirs, one by one. -/
theorem standFor_types {args others : List Expr} {found : List Ty}
    (stand : List.Forall₂ (StandsFor t) others args) (typed : List.Forall₂ (HasType t) args found) :
    ∃ lower, List.Forall₂ (HasType t) others lower ∧ List.Forall₂ t.Below lower found := by
  induction stand generalizing found with
  | nil =>
    cases typed
    exact ⟨[],.nil,.nil⟩
  | cons first _ ih =>
    cases typed with
    | cons typedFirst typedRest =>
      obtain ⟨low,typedLow,below⟩ := first _ typedFirst
      obtain ⟨lower,typedLower,belowRest⟩ := ih typedRest
      exact ⟨low :: lower,.cons typedLow typedLower,.cons below belowRest⟩

/-- Lists of arguments that differ in one place only. -/
theorem standFor_between (stands : StandsFor t other e) (before after : List Expr) :
    List.Forall₂ (StandsFor t) (before ++ other :: after) (before ++ e :: after) := by
  have self (es : List Expr) : List.Forall₂ (StandsFor t) es es :=
    List.forall₂_same.mpr fun e _ => standsFor_self t e
  exact List.rel_append (self before) (.cons stands (self after))

theorem call_substitute {receiver : Expr} {name : String} {args others : List Expr}
    (stand : List.Forall₂ (StandsFor t) others args) (typed : HasType t (.call receiver name args) type) :
    HasType t (.call receiver name others) type := by
  cases typed with
  | call on inherited arguments fits =>
    obtain ⟨lower,typedLower,below⟩ := standFor_types stand arguments
    exact .call on inherited typedLower (ClassTable.belows_trans below fits)

theorem new_substitute {target : Ty} {args others : List Expr}
    (stand : List.Forall₂ (StandsFor t) others args) (typed : HasType t (.new target args) type) :
    HasType t (.new target others) type := by
  cases typed with
  | new held below arguments fits =>
    obtain ⟨lower,typedLower,belowArguments⟩ := standFor_types stand arguments
    exact .new held below typedLower (ClassTable.belows_trans belowArguments fits)

/-- In the place of a value or of an argument, what stands for an expression gives the node the same
    type. -/
theorem operand_substitute {place : Frame} (operand : place.IsOperand) (stands : StandsFor t other e)
    (typed : HasType t (place.fill e) type) : HasType t (place.fill other) type := by
  cases place with
  | value v =>
    cases typed with
    | assign typedValue fits =>
      obtain ⟨low,typedLow,below⟩ := stands _ typedValue
      exact .assign typedLow (ClassTable.below_trans below fits)
  | receiver name args => exact operand.elim
  | argument on name before after => exact call_substitute (standFor_between stands before after) typed
  | newArgument target before after => exact new_substitute (standFor_between stands before after) typed

/-- In any place, an expression of the same type gives the node the same type. -/
theorem frame_substitute {place : Frame} (same : ∀ type, HasType t e type → HasType t other type)
    (typed : HasType t (place.fill e) type) : HasType t (place.fill other) type := by
  have stands : StandsFor t other e := fun high typedHigh => ⟨high,same high typedHigh,.refl high⟩
  cases place with
  | receiver name args =>
    cases typed with
    | call on inherited arguments fits => exact .call (same _ on) inherited arguments fits
  | value | argument | newArgument =>
    all_goals
      refine operand_substitute ?_ stands typed
      exact trivial

/-- Through all the nodes around, from the smallest on, the type stays the same. -/
theorem around_substitute {around : List Frame} (same : ∀ type, HasType t e type → HasType t other type)
    (typed : HasType t (around.foldl (fun inner frame => frame.fill inner) e) type) :
    HasType t (around.foldl (fun inner frame => frame.fill inner) other) type := by
  induction around generalizing e other with
  | nil => exact same type typed
  | cons frame around ih => exact ih (fun _ => frame_substitute same) typed

end

/-- Substitutivity over every class table: where an expression stands as a value or as an argument, one of
    a subtype may take its place, and the whole keeps its type. -/
theorem check_substitute (t : ClassTable) (context : OperandContext) (e other : Expr) (high low type : Ty)
    (checked : (e.check t).result = .ok high) (checkedOther : (other.check t).result = .ok low)
    (below : t.isSubtype low high) (whole : ((context.fill e).check t).result = .ok type) :
    ((context.fill other).check t).result = .ok type := by
  rw [check_ok_iff] at checked checkedOther whole ⊢
  have stands : StandsFor t other e := by
    intro found typed
    cases hasType_unique checked typed
    exact ⟨low,checkedOther,(t.isSubtype_iff low high).mp below⟩
  exact around_substitute (fun _ => operand_substitute context.operand stands) whole

/-- Two classes that extend each other and a third below them. -/
def circle : ClassTable :=
  { object := ⟨0⟩
    string := ⟨0⟩
    classes :=
      [⟨"Left",some ⟨1⟩,[⟨"take",[.object ⟨0⟩],.primitive .int⟩],[]⟩,
       ⟨"Right",some ⟨0⟩,[],[.primitive .int]⟩,
       ⟨"Low",some ⟨1⟩,[],[]⟩] }

def leftVar : Expr := .var ⟨"x",.object ⟨0⟩⟩

def newLow : Expr := .new (.object ⟨2⟩) []

/-- The argument of a method call that is itself the argument of a constructor call. -/
def takenByNew : OperandContext := ⟨.argument leftVar "take" [] [],trivial,[.newArgument (.object ⟨1⟩) [] []]⟩

theorem takenByNew_substitute :
    (leftVar.check circle).result = .ok (.object ⟨0⟩) ∧ (newLow.check circle).result = .ok (.object ⟨2⟩) ∧
      circle.isSubtype (.object ⟨2⟩) (.object ⟨0⟩) ∧
      ((takenByNew.fill leftVar).check circle).result = .ok (.object ⟨1⟩) ∧
      ((takenByNew.fill newLow).check circle).result = .ok (.object ⟨1⟩) := by
  have checked : (leftVar.check circle).result = .ok (.object ⟨0⟩) := by rfl
  have checkedLow : (newLow.check circle).result = .ok (.object ⟨2⟩) := by rfl
  have below : circle.isSubtype (.object ⟨2⟩) (.object ⟨0⟩) := by decide
  have whole : ((takenByNew.fill leftVar).check circle).result = .ok (.object ⟨1⟩) := by rfl
  exact ⟨checked,checkedLow,below,whole,
    check_substitute circle takenByNew leftVar newLow _ _ _ checked checkedLow below whole⟩

end Nominal
