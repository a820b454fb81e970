import Nominal.Proofs.Typing
import Nominal.Registration

/-!
Checking in two phases and in one. A check that only says whether an expression is well typed has to be
followed by a second phase, in which the static types of the parts are read off for the rule of the node.
The checker does without it: it hands the type of every part on as it is found. The two agree on every
expression, since a part that passes has the static type that its check has found.
-/

namespace Nominal

namespace Expr

mutual

/-- Checks the parts, reads off their static types, and applies the rule of the node to these. -/
def twoPhase (t : ClassTable) : Expr → Except TypeError Unit
  | var _ => return ()
  | literal .. => return ()
  | null => return ()
  | assign v value => do
    value.twoPhase t
    let found ← value.staticType t
    let _ ← t.assignRule v found
  | call receiver name args => do
    receiver.twoPhase t
    twoPhaseAll t args
    let on ← receiver.staticType t
    let found ← args.mapM (staticType t)
    let _ ← t.callRule on name found
  | new target args => do
    twoPhaseAll t args
    let found ← args.mapM (staticType t)
    let _ ← t.newRule target found

/-- Checks expressions from left to right, up to the first that fails. -/
def twoPhaseAll (t : ClassTable) : List Expr → Except TypeError Unit
  | [] => return ()
  | e :: rest => do
    e.twoPhase t
    twoPhaseAll t rest

end

end Expr

section
variable {t : ClassTable}

/-- The static type of a well-typed expression is its type. Only receivers are looked into. -/
theorem staticType_of_hasType {e : Expr} {type : Ty} (typed : HasType t e type) :
    e.staticType t = .ok type := by
  cases e with
  | var v => cases typed; rfl
  | literal text type => cases typed; rfl
  | null => cases typed; rfl
  | assign v value => cases typed; rfl
  | call receiver name args =>
    cases typed with
    | call on inherited =>
      have receiver_type := staticType_of_hasType on
      have found := (t.lookupMethod_ok_iff _ name _).mpr ⟨_,rfl,inherited⟩
      simp only [Expr.staticType,receiver_type,found,bind,Except.bind,pure,Except.pure]
  | new target args => cases typed; rfl

theorem staticTypes_of_hasTypes {es : List Expr} {types : List Ty}
    (typed : List.Forall₂ (HasType t) es types) : es.mapM (Expr.staticType t) = .ok types :=
  (mapM_ok_iff _ es types).mpr (typed.imp fun _ _ => staticType_of_hasType)

end

private theorem drop_value {α : Type} (result : Except TypeError α) :
    (do let _ ← result) = result.map fun _ => () := by
  cases result <;> rfl

mutual

theorem twoPhase_eq_verdict (t : ClassTable) (e : Expr) : e.twoPhase t = e.verdict t := by
  cases e with
  | var | literal | null => all_goals rfl
  | assign v value =>
    rw [Expr.twoPhase,twoPhase_eq_verdict t value]
    simp only [Expr.verdict,Expr.check,Outcome.result_close,Outcome.result_bind,Outcome.result_judge]
    cases checked : (value.check t).result with
    | error err => rfl
    | ok found =>
      -- What is read off again is what the one pass has found.
      rw [staticType_of_hasType ((check_ok_iff t value found).mp checked)]
      exact drop_value (t.assignRule v found)
  | call receiver name args =>
    rw [Expr.twoPhase,twoPhase_eq_verdict t receiver,twoPhaseAll_eq_checkAll t args]
    simp only [Expr.verdict,Expr.check,Outcome.result_close,Outcome.result_bind,Outcome.result_judge]
    cases checked : (receiver.check t).result with
    | error err => rfl
    | ok on =>
      rw [staticType_of_hasType ((check_ok_iff t receiver on).mp checked)]
      cases all_checked : (Expr.checkAll t args).result with
      | error err => rfl
      | ok found =>
        rw [staticTypes_of_hasTypes ((checkAll_ok_iff t args found).mp all_checked)]
        exact drop_value (t.callRule on name found)
  | new target args =>
    rw [Expr.twoPhase,twoPhaseAll_eq_checkAll t args]
    simp only [Expr.verdict,Expr.check,Outcome.result_close,Outcome.result_bind,Outcome.result_judge]
    cases all_checked : (Expr.checkAll t args).result with
    | error err => rfl
    | ok found =>
      rw [staticTypes_of_hasTypes ((checkAll_ok_iff t args found).mp all_checked)]
      exact drop_value (t.newRule target found)

theorem twoPhaseAll_eq_checkAll (t : ClassTable) (es : List Expr) :
    Expr.twoPhaseAll t es = (Expr.checkAll t es).result.map fun _ => () := by
  cases es with
  | nil => rfl
  | cons e rest =>
    rw [Expr.twoPhaseAll,twoPhase_eq_verdict t e,twoPhaseAll_eq_checkAll t rest]
    simp only [Expr.verdict,Expr.checkAll,Outcome.result_bind,Outcome.result_pure]
    cases (e.check t).result with
    | error err => rfl
    | ok type => cases (Expr.checkAll t rest).result <;> rfl

end

/-- One pass refines two phases: the verdict is the same on every expression, with the same error, and a
    type that is found is the static type. -/
theorem onePass_refines_twoPhase (t : ClassTable) (e : Expr) :
    e.verdict t = e.twoPhase t ∧
      ∀ type, (e.check t).result = .ok type → e.staticType t = .ok type := by
  refine ⟨(twoPhase_eq_verdict t e).symm,?_⟩
  intro type checked
  exact staticType_of_hasType ((check_ok_iff t e type).mp checked)

/-- A call on what another call returns, with a call among the arguments. -/
def callOnCall : Expr :=
  .call (.call (.literal "a" ClassTable.builtin.stringType) "concat"
    [.call (.var ⟨"x",ClassTable.builtin.objectType⟩) "toString" []]) "length" []

theorem callOnCall_refines :
    (callOnCall.check .builtin).result = .ok (.primitive .int) ∧
      callOnCall.staticType .builtin = .ok (.primitive .int) := by
  have checked : (callOnCall.check .builtin).result = .ok (.primitive .int) := by rfl
  exact ⟨checked,(onePass_refines_twoPhase .builtin callOnCall).2 _ checked⟩

end Nominal
