import Nominal.Check
import Nominal.Proofs.Failure
import Nominal.Proofs.Hierarchy

/-!
The typing rules of expressions, and the checker against them. The rules say nothing of an order of
checks or of events; the checker accepts an expression with a type exactly when the rules give it that
type, over every class table.
-/

namespace Nominal

/-- The typing rules. Arguments are matched with parameters by position: there are as many of one as
    of the other, and each argument's type is below the parameter. -/
inductive HasType (t : ClassTable) : Expr → Ty → Prop
  | var (v : Var) : HasType t (.var v) v.type
  | literal (text : String) (type : Ty) : HasType t (.literal text type) type
  | null : HasType t .null .null
  | assign {v : Var} {value : Expr} {found : Ty} : HasType t value found → t.Below found v.type →
      HasType t (.assign v value) v.type
  | call {receiver : Expr} {name : String} {args : List Expr} {c : ClassId} {m : Method}
      {found : List Ty} : HasType t receiver (.object c) → t.Inherits name c m →
      List.Forall₂ (HasType t) args found → List.Forall₂ t.Below found m.params →
      HasType t (.call receiver name args) m.returns
  | new {c : ClassId} {d : ClassDecl} {args : List Expr} {found : List Ty} : t.get? c = some d →
      t.Below (.object c) t.objectType → List.Forall₂ (HasType t) args found →
      List.Forall₂ t.Below found d.constructor → HasType t (.new (.object c) args) (.object c)

namespace Outcome

@[simp] theorem result_pure {α : Type} (a : α) : (pure a : Outcome α).result = .ok a := rfl

@[simp] theorem result_bind {α β : Type} (first : Outcome α) (next : α → Outcome β) :
    (first >>= next).result = first.result >>= fun a => (next a).result := by
  change (first.andThen next).result = _
  unfold andThen
  cases first.result <;> rfl

@[simp] theorem result_judge (node : Expr.Kind) (verdict : Except TypeError Ty) :
    (judge node verdict).result = verdict := by
  cases verdict <;> rfl

@[simp] theorem result_close (node : Expr.Kind) (o : Outcome Ty) : (close node o).result = o.result := by
  unfold close
  cases h : o.result <;> rfl

end Outcome

/-! ### The rule of each node -/

namespace ClassTable

theorem assignRule_ok_iff (t : ClassTable) (v : Var) (found type : Ty) :
    t.assignRule v found = .ok type ↔ t.Below found v.type ∧ v.type = type := by
  by_cases below : t.isSubtype found v.type
  · simp [assignRule,← isSubtype_iff,below]
  · simp [assignRule,← isSubtype_iff,below]

theorem assignRule_error_iff (t : ClassTable) (v : Var) (found : Ty) (err : TypeError) :
    t.assignRule v found = .error err ↔
      ¬ t.Below found v.type ∧ .assignment v.name v.type found = err := by
  by_cases below : t.isSubtype found v.type
  · simp [assignRule,← isSubtype_iff,below]
  · simp [assignRule,← isSubtype_iff,below]

private theorem all_below_iff (t : ClassTable) (params found : List Ty)
    (count : params.length = found.length) :
    ((found.zip params).all fun (arg,param) => t.isSubtype arg param) = true ↔
      List.Forall₂ t.Below found params := by
  rw [List.forall₂_iff_zip,List.all_eq_true]
  constructor
  · intro all
    exact ⟨count.symm,fun member => (t.isSubtype_iff _ _).mp (all _ member)⟩
  · rintro ⟨_,below⟩ ⟨arg,param⟩ member
    exact (t.isSubtype_iff arg param).mpr (below member)

theorem matchArguments_ok_iff (t : ClassTable) (callee : Callee) (params found : List Ty) (done : Unit) :
    t.matchArguments callee params found = .ok done ↔ List.Forall₂ t.Below found params := by
  by_cases count : params.length = found.length
  · rw [← t.all_below_iff params found count]
    simp [matchArguments,count]
  · simp only [matchArguments,ne_eq,count,not_false_eq_true,if_true,reduceCtorEq,false_iff]
    intro below
    exact count below.length_eq.symm

theorem matchArguments_error_iff (t : ClassTable) (callee : Callee) (params found : List Ty)
    (err : TypeError) :
    t.matchArguments callee params found = .error err ↔
      (params.length ≠ found.length ∧ .argumentCount callee params.length found.length = err) ∨
      (params.length = found.length ∧ ¬ List.Forall₂ t.Below found params ∧
        .arguments callee params found = err) := by
  by_cases count : params.length = found.length
  · rw [← t.all_below_iff params found count]
    by_cases all : (found.zip params).all fun (arg,param) => t.isSubtype arg param
    · simp [matchArguments,count,all]
    · simp [matchArguments,count,all]
  · simp [matchArguments,count]

theorem callRule_ok_iff (t : ClassTable) (receiver : Ty) (name : String) (found : List Ty) (type : Ty) :
    t.callRule receiver name found = .ok type ↔ ∃ c m, receiver = .object c ∧ t.Inherits name c m ∧
      List.Forall₂ t.Below found m.params ∧ m.returns = type := by
  simp only [callRule,bind_ok_iff,pure_ok_iff,lookupMethod_ok_iff,matchArguments_ok_iff]
  constructor
  · rintro ⟨m,⟨c,same,inherited⟩,done,below,returns⟩
    exact ⟨c,m,same,inherited,below,returns⟩
  · rintro ⟨c,m,same,inherited,below,returns⟩
    exact ⟨m,⟨c,same,inherited⟩,(),below,returns⟩

theorem callRule_error_iff (t : ClassTable) (receiver : Ty) (name : String) (found : List Ty)
    (err : TypeError) :
    t.callRule receiver name found = .error err ↔
      ((¬ ∃ c m, receiver = .object c ∧ t.Inherits name c m) ∧ .noSuchMethod receiver name = err) ∨
      ∃ c m, receiver = .object c ∧ t.Inherits name c m ∧
        t.matchArguments (.method receiver name) m.params found = .error err := by
  rw [callRule,bind_error_iff]
  simp only [bind_pure_error_iff,lookupMethod_error_iff,lookupMethod_ok_iff]
  apply or_congr_right
  constructor
  · rintro ⟨m,⟨c,same,inherited⟩,mismatch⟩
    exact ⟨c,m,same,inherited,mismatch⟩
  · rintro ⟨c,m,same,inherited,mismatch⟩
    exact ⟨m,⟨c,same,inherited⟩,mismatch⟩

/-- The type is that of a class of the table, with the given declaration, and is below the root class. -/
def Instantiable (t : ClassTable) (target : Ty) (d : ClassDecl) : Prop :=
  ∃ c, target = .object c ∧ t.get? c = some d ∧ t.Below target t.objectType

theorem newRule_instantiable {t : ClassTable} {target : Ty} {d : ClassDecl}
    (legal : t.Instantiable target d) (found : List Ty) :
    t.newRule target found =
      (t.matchArguments (.constructor target) d.constructor found >>= fun _ => pure target) := by
  obtain ⟨c,rfl,held,below⟩ := legal
  rw [newRule,if_pos ((t.isSubtype_iff _ _).mpr below)]
  simp only [(t.constructor_iff _ _).mpr ⟨c,d,rfl,held,rfl⟩]

theorem newRule_illegal {t : ClassTable} {target : Ty} (illegal : ∀ d, ¬ t.Instantiable target d)
    (found : List Ty) : t.newRule target found = .error (.illegalInstantiation target) := by
  rw [newRule]
  split
  · rename_i below
    split
    · rename_i params known
      obtain ⟨c,d,same,held,_⟩ := (t.constructor_iff target params).mp known
      exact absurd ⟨c,same,held,(t.isSubtype_iff _ _).mp below⟩ (illegal d)
    · rfl
  · rfl

theorem instantiable_unique {t : ClassTable} {target : Ty} {left right : ClassDecl}
    (first : t.Instantiable target left) (second : t.Instantiable target right) : left = right := by
  obtain ⟨c,rfl,held,_⟩ := first
  obtain ⟨other,same,again,_⟩ := second
  cases same
  exact Option.some.inj (held.symm.trans again)

theorem newRule_ok_iff (t : ClassTable) (target : Ty) (found : List Ty) (type : Ty) :
    t.newRule target found = .ok type ↔
      ∃ d, t.Instantiable target d ∧ List.Forall₂ t.Below found d.constructor ∧ target = type := by
  by_cases legal : ∃ d, t.Instantiable target d
  · obtain ⟨d,legal⟩ := legal
    simp only [newRule_instantiable legal,bind_ok_iff,pure_ok_iff,matchArguments_ok_iff]
    constructor
    · rintro ⟨done,fits,same⟩
      exact ⟨d,legal,fits,same⟩
    · rintro ⟨other,again,fits,same⟩
      exact ⟨(),instantiable_unique again legal ▸ fits,same⟩
  · rw [newRule_illegal (not_exists.mp legal)]
    simp only [reduceCtorEq,false_iff]
    rintro ⟨d,again,_⟩
    exact legal ⟨d,again⟩

theorem newRule_error_iff (t : ClassTable) (target : Ty) (found : List Ty) (err : TypeError) :
    t.newRule target found = .error err ↔
      ((¬ ∃ d, t.Instantiable target d) ∧ .illegalInstantiation target = err) ∨
      ∃ d, t.Instantiable target d ∧
        t.matchArguments (.constructor target) d.constructor found = .error err := by
  by_cases legal : ∃ d, t.Instantiable target d
  · obtain ⟨d,legal⟩ := legal
    rw [newRule_instantiable legal,bind_pure_error_iff]
    constructor
    · exact fun mismatch => .inr ⟨d,legal,mismatch⟩
    · rintro (⟨nothing,_⟩ | ⟨other,again,mismatch⟩)
      · exact absurd ⟨d,legal⟩ nothing
      · exact instantiable_unique again legal ▸ mismatch
  · rw [newRule_illegal (not_exists.mp legal),Except.error.injEq]
    constructor
    · exact fun same => .inl ⟨legal,same⟩
    · rintro (⟨_,same⟩ | ⟨d,again,_⟩)
      · exact same
      · exact absurd ⟨d,again⟩ legal

end ClassTable

/-! ### The checker -/

mutual

/-- The checker accepts an expression with exactly the type that the rules give it. -/
theorem check_ok_iff (t : ClassTable) (e : Expr) (type : Ty) :
    (e.check t).result = .ok type ↔ HasType t e type := by
  cases e with
  | var | literal | null =>
    all_goals
      simp only [Expr.check,Outcome.result_close,Outcome.result_pure,Except.ok.injEq]
      constructor
      · rintro rfl; constructor
      · intro typing; cases typing; rfl
  | assign v value =>
    simp only [Expr.check,Outcome.result_close,Outcome.result_bind,Outcome.result_judge,bind_ok_iff,
      check_ok_iff t value,ClassTable.assignRule_ok_iff]
    constructor
    · rintro ⟨found,typed,below,rfl⟩
      exact .assign typed below
    · intro typing
      cases typing with
      | assign typed below => exact ⟨_,typed,below,rfl⟩
  | call receiver name args =>
    simp only [Expr.check,Outcome.result_close,Outcome.result_bind,Outcome.result_judge,bind_ok_iff,
      check_ok_iff t receiver,checkAll_ok_iff t args,ClassTable.callRule_ok_iff]
    constructor
    · rintro ⟨on,typed,found,arguments,c,m,rfl,inherited,fits,rfl⟩
      exact .call typed inherited arguments fits
    · intro typing
      cases typing with
      | call typed inherited arguments fits => exact ⟨_,typed,_,arguments,_,_,rfl,inherited,fits,rfl⟩
  | new target args =>
    simp only [Expr.check,Outcome.result_close,Outcome.result_bind,Outcome.result_judge,bind_ok_iff,
      checkAll_ok_iff t args,ClassTable.newRule_ok_iff]
    constructor
    · rintro ⟨found,arguments,d,⟨c,rfl,held,below⟩,fits,rfl⟩
      exact .new held below arguments fits
    · intro typing
      cases typing with
      | new held below arguments fits => exact ⟨_,arguments,_,⟨_,rfl,held,below⟩,fits,rfl⟩

/-- A list of expressions is accepted with the types of its members, in order. -/
theorem checkAll_ok_iff (t : ClassTable) (es : List Expr) (types : List Ty) :
    (Expr.checkAll t es).result = .ok types ↔ List.Forall₂ (HasType t) es types := by
  cases es with
  | nil => simp [Expr.checkAll,eq_comm]
  | cons e rest =>
    simp only [Expr.checkAll,Outcome.result_bind,Outcome.result_pure,bind_ok_iff,Except.ok.injEq,
      check_ok_iff t e,checkAll_ok_iff t rest,List.forall₂_cons_left_iff]
    constructor
    · rintro ⟨type,typed,later,others,rfl⟩
      exact ⟨type,later,typed,others,rfl⟩
    · rintro ⟨type,later,typed,others,rfl⟩
      exact ⟨type,typed,later,others,rfl⟩

end

theorem verdict_ok_iff (t : ClassTable) (e : Expr) :
    e.verdict t = .ok () ↔ ∃ type, (e.check t).result = .ok type := by
  unfold Expr.verdict
  cases (e.check t).result <;> simp [Except.map]

/-- Expressions that all pass have types, one by one. -/
theorem hasTypes_of_verdicts {t : ClassTable} {es : List Expr} (pass : ∀ e ∈ es, e.verdict t = .ok ()) :
    ∃ types, List.Forall₂ (HasType t) es types := by
  induction es with
  | nil => exact ⟨[],.nil⟩
  | cons e rest ih =>
    rw [List.forall_mem_cons] at pass
    obtain ⟨type,checked⟩ := (verdict_ok_iff t e).mp pass.1
    obtain ⟨types,typed⟩ := ih pass.2
    exact ⟨type :: types,.cons ((check_ok_iff t e type).mp checked) typed⟩

/-- Soundness and completeness over every class table: the checker returns a type exactly when the
    rules give the expression that type, and it reports no error exactly when they give it some type. -/
theorem check_sound_complete (t : ClassTable) (e : Expr) :
    (∀ type, (e.check t).result = .ok type ↔ HasType t e type) ∧
      (e.verdict t = .ok () ↔ ∃ type, HasType t e type) := by
  refine ⟨check_ok_iff t e,?_⟩
  rw [verdict_ok_iff]
  exact exists_congr (check_ok_iff t e)

end Nominal
