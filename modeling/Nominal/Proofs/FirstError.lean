import Nominal.Proofs.Typing

/-!
Which error the checker reports. The nodes of an expression are listed in post-order, and each has a
rule of its own, which it can break only when its parts are well typed. The checker fails exactly when
some node breaks its rule, with the error of the first one.
-/

namespace Nominal

namespace Expr

mutual

/-- The nodes of an expression: those of the receiver, then those of the arguments from left to right,
    then the expression itself. An assignment comes after the nodes of its value. -/
def postorder : Expr → List Expr
  | var v => [var v]
  | literal text type => [literal text type]
  | null => [null]
  | assign v value => value.postorder ++ [assign v value]
  | call receiver name args => receiver.postorder ++ (postorderAll args ++ [call receiver name args])
  | new target args => postorderAll args ++ [new target args]

def postorderAll : List Expr → List Expr
  | [] => []
  | e :: rest => e.postorder ++ postorderAll rest

end

/-- The expressions that a node is made of. -/
def parts : Expr → List Expr
  | assign _ value => [value]
  | call receiver _ args => receiver :: args
  | new _ args => args
  | _ => []

end Expr

/-- How arguments fail to match parameters: by their number, or else by their types, and then the whole
    lists are reported. -/
inductive Mismatch (t : ClassTable) (callee : Callee) (params found : List Ty) : TypeError → Prop
  | count : params.length ≠ found.length →
      Mismatch t callee params found (.argumentCount callee params.length found.length)
  | types : params.length = found.length → ¬ List.Forall₂ t.Below found params →
      Mismatch t callee params found (.arguments callee params found)

/-- The node breaks its own rule, although its parts are well typed, and the error says how. -/
inductive Breach (t : ClassTable) : Expr → TypeError → Prop
  | assignment {v : Var} {value : Expr} {found : Ty} : HasType t value found → ¬ t.Below found v.type →
      Breach t (.assign v value) (.assignment v.name v.type found)
  | noSuchMethod {receiver : Expr} {name : String} {args : List Expr} {on : Ty} {found : List Ty} :
      HasType t receiver on → List.Forall₂ (HasType t) args found →
      (¬ ∃ c m, on = .object c ∧ t.Inherits name c m) →
      Breach t (.call receiver name args) (.noSuchMethod on name)
  | call {receiver : Expr} {name : String} {args : List Expr} {c : ClassId} {found : List Ty}
      {m : Method} {err : TypeError} : HasType t receiver (.object c) →
      List.Forall₂ (HasType t) args found → t.Inherits name c m →
      Mismatch t (.method (.object c) name) m.params found err → Breach t (.call receiver name args) err
  | illegalInstantiation {target : Ty} {args : List Expr} {found : List Ty} :
      List.Forall₂ (HasType t) args found → (¬ ∃ d, t.Instantiable target d) →
      Breach t (.new target args) (.illegalInstantiation target)
  | new {target : Ty} {args : List Expr} {found : List Ty} {d : ClassDecl} {err : TypeError} :
      List.Forall₂ (HasType t) args found → t.Instantiable target d →
      Mismatch t (.constructor target) d.constructor found err → Breach t (.new target args) err

theorem mismatch_iff (t : ClassTable) (callee : Callee) (params found : List Ty) (err : TypeError) :
    t.matchArguments callee params found = .error err ↔ Mismatch t callee params found err := by
  rw [ClassTable.matchArguments_error_iff]
  constructor
  · rintro (⟨differ,rfl⟩ | ⟨same,unfit,rfl⟩)
    · exact .count differ
    · exact .types same unfit
  · intro mismatch
    cases mismatch with
    | count differ => exact .inl ⟨differ,rfl⟩
    | types same unfit => exact .inr ⟨same,unfit,rfl⟩

/-! ### A breach is a failure of the node's rule on the types of its parts -/

section
variable {t : ClassTable} {receiver value : Expr} {args : List Expr} {on target : Ty} {found : List Ty}

theorem hasType_unique {e : Expr} {left right : Ty} (first : HasType t e left)
    (second : HasType t e right) : left = right := by
  rw [← check_ok_iff] at first second
  exact Except.ok.inj (first.symm.trans second)

theorem hasTypes_unique {left right : List Ty} (first : List.Forall₂ (HasType t) args left)
    (second : List.Forall₂ (HasType t) args right) : left = right := by
  rw [← checkAll_ok_iff] at first second
  exact Except.ok.inj (first.symm.trans second)

theorem assign_breach_iff {type : Ty} (typed : HasType t value type) (v : Var) (err : TypeError) :
    t.assignRule v type = .error err ↔ Breach t (.assign v value) err := by
  rw [ClassTable.assignRule_error_iff]
  constructor
  · rintro ⟨unfit,rfl⟩
    exact .assignment typed unfit
  · intro breach
    cases breach with
    | assignment other unfit =>
      cases hasType_unique typed other
      exact ⟨unfit,rfl⟩

theorem call_breach_iff (typed : HasType t receiver on) (arguments : List.Forall₂ (HasType t) args found)
    (name : String) (err : TypeError) :
    t.callRule on name found = .error err ↔ Breach t (.call receiver name args) err := by
  rw [ClassTable.callRule_error_iff]
  constructor
  · rintro (⟨nothing,rfl⟩ | ⟨c,m,rfl,inherited,mismatch⟩)
    · exact .noSuchMethod typed arguments nothing
    · exact .call typed arguments inherited ((mismatch_iff t _ _ _ err).mp mismatch)
  · intro breach
    cases breach with
    | noSuchMethod other others nothing =>
      cases hasType_unique typed other
      exact .inl ⟨nothing,rfl⟩
    | call other others inherited mismatch =>
      cases hasType_unique typed other
      cases hasTypes_unique arguments others
      exact .inr ⟨_,_,rfl,inherited,(mismatch_iff t _ _ _ err).mpr mismatch⟩

theorem new_breach_iff (arguments : List.Forall₂ (HasType t) args found) (target : Ty) (err : TypeError) :
    t.newRule target found = .error err ↔ Breach t (.new target args) err := by
  rw [ClassTable.newRule_error_iff]
  constructor
  · rintro (⟨nothing,rfl⟩ | ⟨d,legal,mismatch⟩)
    · exact .illegalInstantiation arguments nothing
    · exact .new arguments legal ((mismatch_iff t _ _ _ err).mp mismatch)
  · intro breach
    cases breach with
    | illegalInstantiation others nothing => exact .inl ⟨nothing,rfl⟩
    | new others legal mismatch =>
      cases hasTypes_unique arguments others
      exact .inr ⟨_,legal,(mismatch_iff t _ _ _ err).mpr mismatch⟩

end

mutual

/-- The checker fails with the error of the first node in post-order that breaks its rule. -/
theorem check_error_iff (t : ClassTable) (e : Expr) (err : TypeError) :
    (e.check t).result = .error err ↔ FirstFault (Breach t) e.postorder err := by
  cases e with
  | var | literal | null =>
    all_goals
      rw [Expr.postorder,firstFault_singleton]
      simp only [Expr.check,Outcome.result_close,Outcome.result_pure,reduceCtorEq,false_iff]
      intro breach
      cases breach
  | assign v value =>
    rw [Expr.postorder,Expr.check,Outcome.result_close,Outcome.result_bind]
    simp only [Outcome.result_judge]
    apply bind_firstFault (check_error_iff t value)
    intro found typed err
    rw [firstFault_singleton,assign_breach_iff ((check_ok_iff t value found).mp typed)]
  | call receiver name args =>
    rw [Expr.postorder,Expr.check,Outcome.result_close,Outcome.result_bind]
    simp only [Outcome.result_bind,Outcome.result_judge]
    apply bind_firstFault (check_error_iff t receiver)
    intro on typed
    apply bind_firstFault (checkAll_error_iff t args)
    intro found arguments err
    rw [firstFault_singleton,call_breach_iff ((check_ok_iff t receiver on).mp typed)
      ((checkAll_ok_iff t args found).mp arguments)]
  | new target args =>
    rw [Expr.postorder,Expr.check,Outcome.result_close,Outcome.result_bind]
    simp only [Outcome.result_judge]
    apply bind_firstFault (checkAll_error_iff t args)
    intro found arguments err
    rw [firstFault_singleton,new_breach_iff ((checkAll_ok_iff t args found).mp arguments)]

theorem checkAll_error_iff (t : ClassTable) (es : List Expr) (err : TypeError) :
    (Expr.checkAll t es).result = .error err ↔ FirstFault (Breach t) (Expr.postorderAll es) err := by
  cases es with
  | nil =>
    simp only [Expr.checkAll,Outcome.result_pure,reduceCtorEq,false_iff]
    exact firstFault_nil err
  | cons e rest =>
    rw [Expr.postorderAll,Expr.checkAll,Outcome.result_bind,← List.append_nil (Expr.postorderAll rest)]
    simp only [Outcome.result_bind,Outcome.result_pure]
    apply bind_firstFault (check_error_iff t e)
    intro type typed
    apply bind_firstFault (checkAll_error_iff t rest)
    intro types others err
    simp only [reduceCtorEq,false_iff]
    exact firstFault_nil err

end

theorem verdict_error_iff (t : ClassTable) (e : Expr) (err : TypeError) :
    e.verdict t = .error err ↔ (e.check t).result = .error err := by
  unfold Expr.verdict
  cases (e.check t).result <;> simp [Except.map]

/-! ### What the first error leaves out -/

mutual

/-- The nodes of a node are nodes of the expression. -/
theorem postorder_subset (e node : Expr) (member : node ∈ e.postorder) : node.postorder ⊆ e.postorder := by
  cases e with
  | var | literal | null =>
    all_goals
      rw [Expr.postorder,List.mem_singleton] at member
      exact member ▸ List.Subset.refl _
  | assign v value =>
    rw [Expr.postorder,List.mem_append,List.mem_singleton] at member
    rcases member with inside | rfl
    · rw [Expr.postorder]
      exact List.subset_append_of_subset_left _ (postorder_subset value node inside)
    · exact List.Subset.refl _
  | call receiver name args =>
    rw [Expr.postorder,List.mem_append,List.mem_append,List.mem_singleton] at member
    rcases member with inside | inside | rfl
    · rw [Expr.postorder]
      exact List.subset_append_of_subset_left _ (postorder_subset receiver node inside)
    · rw [Expr.postorder]
      exact List.subset_append_of_subset_right _
        (List.subset_append_of_subset_left _ (postorderAll_subset args node inside))
    · exact List.Subset.refl _
  | new target args =>
    rw [Expr.postorder,List.mem_append,List.mem_singleton] at member
    rcases member with inside | rfl
    · rw [Expr.postorder]
      exact List.subset_append_of_subset_left _ (postorderAll_subset args node inside)
    · exact List.Subset.refl _

theorem postorderAll_subset (es : List Expr) (node : Expr) (member : node ∈ Expr.postorderAll es) :
    node.postorder ⊆ Expr.postorderAll es := by
  cases es with
  | nil => simp [Expr.postorderAll] at member
  | cons e rest =>
    rw [Expr.postorderAll] at member ⊢
    rcases List.mem_append.mp member with inside | inside
    · exact List.subset_append_of_subset_left _ (postorder_subset e node inside)
    · exact List.subset_append_of_subset_right _ (postorderAll_subset rest node inside)

end

/-- A well-typed expression has well-typed nodes only. -/
theorem verdict_node {t : ClassTable} {e node : Expr} {type : Ty} (typed : HasType t e type)
    (member : node ∈ e.postorder) : node.verdict t = .ok () := by
  have clean : NoFault (Breach t) e.postorder :=
    (exists_ok_iff (check_error_iff t e)).mp ⟨type,(check_ok_iff t e type).mpr typed⟩
  have inner : NoFault (Breach t) node.postorder :=
    fun inside within => clean inside (postorder_subset e node member within)
  exact (verdict_ok_iff t node).mpr ((exists_ok_iff (check_error_iff t node)).mpr inner)

private theorem typed_member {t : ClassTable} {es : List Expr} {types : List Ty}
    (typed : List.Forall₂ (HasType t) es types) (e : Expr) (member : e ∈ es) : ∃ type, HasType t e type := by
  induction typed with
  | nil => simp at member
  | cons first _ ih =>
    rcases List.mem_cons.mp member with rfl | later
    · exact ⟨_,first⟩
    · exact ih later

/-- A node breaks its own rule only when its parts are well typed. -/
theorem breach_parts {t : ClassTable} {e : Expr} {err : TypeError} (breach : Breach t e err) (part : Expr)
    (member : part ∈ e.parts) : ∃ type, HasType t part type := by
  cases breach with
  | assignment typed =>
    rw [Expr.parts,List.mem_singleton] at member
    exact ⟨_,member ▸ typed⟩
  | noSuchMethod typed arguments =>
    rcases List.mem_cons.mp member with rfl | later
    · exact ⟨_,typed⟩
    · exact typed_member arguments part later
  | call typed arguments =>
    rcases List.mem_cons.mp member with rfl | later
    · exact ⟨_,typed⟩
    · exact typed_member arguments part later
  | illegalInstantiation arguments => exact typed_member arguments part member
  | new arguments => exact typed_member arguments part member

/-- Argument types are compared only when the counts agree. -/
theorem breach_counts {t : ClassTable} {e : Expr} {callee : Callee} {expected found : List Ty}
    (breach : Breach t e (.arguments callee expected found)) : expected.length = found.length := by
  cases breach with
  | call _ _ _ mismatch => cases mismatch with | types same => exact same
  | new _ _ mismatch => cases mismatch with | types same => exact same

/-- The error reported is that of the first node in post-order that breaks its own rule. So a mismatch
    of types is reported only for lists of equal length, and an expression that contains a failing one
    has no error of its own that could take the place of that error. -/
theorem verdict_first_breach (t : ClassTable) (e : Expr) :
    (∀ err, e.verdict t = .error err ↔ FirstFault (Breach t) e.postorder err) ∧
    (∀ callee expected found, e.verdict t = .error (.arguments callee expected found) →
      expected.length = found.length) ∧
    (∀ part ∈ e.parts, ∀ node ∈ part.postorder, ∀ err, node.verdict t = .error err →
      ∀ other, ¬ Breach t e other) := by
  have exact_error (err : TypeError) : e.verdict t = .error err ↔ FirstFault (Breach t) e.postorder err :=
    (verdict_error_iff t e err).trans (check_error_iff t e err)
  refine ⟨exact_error,?_,?_⟩
  · intro callee expected found reported
    obtain ⟨_,node,_,_,_,breach⟩ := (exact_error _).mp reported
    exact breach_counts breach
  · intro part direct node inside err failed other breach
    obtain ⟨type,typed⟩ := breach_parts breach part direct
    rw [verdict_node typed inside] at failed
    cases failed

end Nominal
