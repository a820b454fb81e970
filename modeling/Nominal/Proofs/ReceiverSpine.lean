import Nominal.Proofs.FirstError
import Nominal.Proofs.TwoPhase

/-!
Failures of static types. To read off the type of an expression only receivers are looked into: the receiver
of the expression, the receiver of that, and so on. The reading fails at one of these calls and at no other
node, for want of the method that is called, and then the check fails too. The check visits the arguments as
well, before the call, so it may come upon another error first; where it does not, both report the same.
-/

namespace Nominal

namespace Expr

/-- The node is on the receiver spine of the expression: it is the expression, or its receiver, or the
    receiver of that, and so on. -/
inductive OnSpine (node : Expr) : Expr → Prop
  | here : OnSpine node node
  | receiver {on : Expr} {name : String} {args : List Expr} : OnSpine node on →
      OnSpine node (.call on name args)

/-- The node calls a method that the static type of its receiver neither declares nor inherits; the error
    names this type and the method. -/
inductive LacksMethod (t : ClassTable) : Expr → TypeError → Prop
  | call {receiver : Expr} {name : String} {args : List Expr} {on : Ty} : receiver.staticType t = .ok on →
      (¬ ∃ c m, on = .object c ∧ t.Inherits name c m) →
      LacksMethod t (.call receiver name args) (.noSuchMethod on name)

end Expr

section
variable {t : ClassTable} {e node other : Expr} {err : TypeError}

/-! ### Where reading off the type fails -/

/-- The static type of a call fails in its receiver, or else at the call itself. -/
theorem staticType_call_error_iff (receiver : Expr) (name : String) (args : List Expr) :
    (Expr.call receiver name args).staticType t = .error err ↔
      receiver.staticType t = .error err ∨ (Expr.call receiver name args).LacksMethod t err := by
  rw [Expr.staticType,bind_error_iff]
  simp only [bind_pure_error_iff,ClassTable.lookupMethod_error_iff]
  apply or_congr_right
  constructor
  · rintro ⟨on,read,nothing,rfl⟩
    exact .call read nothing
  · intro lacks
    cases lacks with
    | call read nothing => exact ⟨_,read,nothing,rfl⟩

/-- A call that lacks its method makes the reading fail for every expression on whose spine it is. -/
theorem staticType_of_lacks (spine : node.OnSpine e) (lacks : node.LacksMethod t err) :
    e.staticType t = .error err := by
  induction spine with
  | here =>
    cases lacks with
    | call read nothing => exact (staticType_call_error_iff _ _ _).mpr (.inr (.call read nothing))
  | receiver _ ih => exact (staticType_call_error_iff _ _ _).mpr (.inl ih)

/-- The reading fails only at a call on the spine. -/
theorem lacks_of_staticType (t : ClassTable) (e : Expr) (err : TypeError)
    (failed : e.staticType t = .error err) : ∃ node : Expr, node.OnSpine e ∧ node.LacksMethod t err := by
  cases e with
  | var | literal | null | assign | new => all_goals cases failed
  | call receiver name args =>
    rcases (staticType_call_error_iff receiver name args).mp failed with inside | here
    · obtain ⟨node,spine,lacks⟩ := lacks_of_staticType t receiver err inside
      exact ⟨node,.receiver spine,lacks⟩
    · exact ⟨_,.here,here⟩

/-- Above a call that lacks its method no other does, for its receiver has no static type. -/
theorem not_lacks_above {receiver : Expr} {name : String} {args : List Expr} {otherErr : TypeError}
    (spine : node.OnSpine receiver) (lacks : node.LacksMethod t err) :
    ¬ (Expr.call receiver name args).LacksMethod t otherErr := by
  intro lacksAbove
  cases lacksAbove with
  | call read =>
    rw [staticType_of_lacks spine lacks] at read
    cases read

theorem lacksMethod_unique {otherErr : TypeError} (spine : node.OnSpine e) (spineOther : other.OnSpine e)
    (lacks : node.LacksMethod t err) (lacksOther : other.LacksMethod t otherErr) : other = node := by
  induction spine with
  | here =>
    cases spineOther with
    | here => rfl
    | receiver deeper => exact absurd lacks (not_lacks_above deeper lacksOther)
  | receiver deeper ih =>
    cases spineOther with
    | here => exact absurd lacksOther (not_lacks_above deeper lacks)
    | receiver deeperOther => exact ih deeperOther

/-- The reading fails exactly if a call on the spine lacks its method, and there is only one such call. -/
theorem staticType_error_iff (t : ClassTable) (e : Expr) (err : TypeError) :
    e.staticType t = .error err ↔ ∃! node : Expr, node.OnSpine e ∧ node.LacksMethod t err := by
  constructor
  · intro failed
    obtain ⟨node,spine,lacks⟩ := lacks_of_staticType t e err failed
    refine ⟨node,⟨spine,lacks⟩,?_⟩
    rintro other ⟨spineOther,lacksOther⟩
    exact lacksMethod_unique spine spineOther lacks lacksOther
  · rintro ⟨node,⟨spine,lacks⟩,_⟩
    exact staticType_of_lacks spine lacks

/-! ### What the check reports -/

/-- An error of a node on the spine is the error of the whole, since receivers are checked first. -/
theorem check_onSpine (spine : node.OnSpine e) (failed : (node.check t).result = .error err) :
    (e.check t).result = .error err := by
  induction spine with
  | here => exact failed
  | receiver _ ih =>
    rw [Expr.check,Outcome.result_close,Outcome.result_bind,ih]
    rfl

/-- A call that lacks its method reports this, if its receiver and its arguments pass. -/
theorem check_lacksMethod (lacks : node.LacksMethod t err)
    (pass : ∀ part ∈ node.parts, part.verdict t = .ok ()) : (node.check t).result = .error err := by
  cases lacks with
  | @call receiver name args on read nothing =>
    rw [Expr.parts,List.forall_mem_cons] at pass
    obtain ⟨type,checked⟩ := (verdict_ok_iff t receiver).mp pass.1
    obtain ⟨found,arguments⟩ := hasTypes_of_verdicts pass.2
    have typed := (check_ok_iff t receiver type).mp checked
    have same : type = on := Except.ok.inj ((staticType_of_hasType typed).symm.trans read)
    subst same
    simp only [Expr.check,Outcome.result_close,Outcome.result_bind,Outcome.result_judge,bind_error_iff]
    refine .inr ⟨type,checked,.inr ⟨found,(checkAll_ok_iff t args found).mpr arguments,?_⟩⟩
    exact (call_breach_iff typed arguments name _).mpr (.noSuchMethod typed arguments nothing)

/-- Where the type cannot be read off, the check fails too: what passes has the type that is read off. -/
theorem verdict_of_staticType (failed : e.staticType t = .error err) :
    ∃ reported, e.verdict t = .error reported := by
  cases judged : e.verdict t with
  | error reported => exact ⟨reported,rfl⟩
  | ok =>
    obtain ⟨type,checked⟩ := (verdict_ok_iff t e).mp judged
    rw [staticType_of_hasType ((check_ok_iff t e type).mp checked)] at failed
    cases failed

end

/-- Over every class table: the type of an expression cannot be read off exactly if one call on its receiver
    spine lacks its method, and the error is that of this call. Then the check fails too, and with the same
    error if the receiver and the arguments of the call pass. -/
theorem staticType_failure (t : ClassTable) (e : Expr) :
    (∀ err, e.staticType t = .error err ↔ ∃! node : Expr, node.OnSpine e ∧ node.LacksMethod t err) ∧
      (∀ err, e.staticType t = .error err → ∃ reported, e.verdict t = .error reported) ∧
      ∀ (node : Expr) (err : TypeError), node.OnSpine e → node.LacksMethod t err →
        (∀ part ∈ node.parts, part.verdict t = .ok ()) → e.verdict t = .error err := by
  refine ⟨staticType_error_iff t e,fun err => verdict_of_staticType,?_⟩
  intro node err spine lacks pass
  exact (verdict_error_iff t e err).mpr (check_onSpine spine (check_lacksMethod lacks pass))

/-- A method that objects do not have is called on one. -/
def callMissing (argument : Expr) : Expr := .call (.var ⟨"x",.object ⟨0⟩⟩) "missing" [argument]

/-- The length of the answer is asked for. -/
def lengthOfMissing (argument : Expr) : Expr := .call (callMissing argument) "length" []

/-- With an argument that passes both report the missing method. An argument that fails changes what the
    check reports, but not that it fails. -/
theorem lengthOfMissing_failure :
    (callMissing .null).OnSpine (lengthOfMissing .null) ∧
      (callMissing .null).LacksMethod .builtin (.noSuchMethod (.object ⟨0⟩) "missing") ∧
      (∀ part ∈ (callMissing .null).parts, part.verdict .builtin = .ok ()) ∧
      (lengthOfMissing .null).verdict .builtin = .error (.noSuchMethod (.object ⟨0⟩) "missing") ∧
      (lengthOfMissing (.call .null "run" [])).staticType .builtin =
        .error (.noSuchMethod (.object ⟨0⟩) "missing") ∧
      ∃ reported, (lengthOfMissing (.call .null "run" [])).verdict .builtin = .error reported := by
  have spine : (callMissing .null).OnSpine (lengthOfMissing .null) := .receiver .here
  have lacks : (callMissing .null).LacksMethod .builtin (.noSuchMethod (.object ⟨0⟩) "missing") :=
    .call rfl ((ClassTable.lookupMethod_error_iff .builtin (.object ⟨0⟩) "missing" _).mp rfl).1
  have pass : ∀ part ∈ (callMissing .null).parts, part.verdict .builtin = .ok () :=
    List.forall_mem_cons.mpr ⟨rfl,List.forall_mem_singleton.mpr rfl⟩
  have failed : (lengthOfMissing (.call .null "run" [])).staticType .builtin =
      .error (.noSuchMethod (.object ⟨0⟩) "missing") := rfl
  exact ⟨spine,lacks,pass,(staticType_failure .builtin (lengthOfMissing .null)).2.2 _ _ spine lacks pass,failed,
    (staticType_failure .builtin (lengthOfMissing (.call .null "run" []))).2.1 _ failed⟩

end Nominal
