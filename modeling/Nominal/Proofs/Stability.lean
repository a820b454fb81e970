import Nominal.Proofs.EntryOrder
import Nominal.Proofs.ErrorTypes
import Nominal.Proofs.Typing

/-!
Diagnostics over growing class tables. An expression is written with types by name, and the names are
resolved in a table before it is checked. Over two tables that agree on the classes the expression can
come to, the checks go the same way, node by node: they end in types of the same name or in errors that
are alike, and so in the same words.
-/

namespace Nominal

/-- An expression as it is written, with types by name. -/
inductive WrittenExpr where
  | var (name type : String)
  | literal (text type : String)
  | null
  | assign (name type : String) (value : WrittenExpr)
  | call (receiver : WrittenExpr) (name : String) (args : List WrittenExpr)
  | new (target : String) (args : List WrittenExpr)
  deriving Repr

namespace WrittenExpr

mutual

/-- The expression with its names resolved in a table; none if a name stands for no type. -/
def resolve? (t : ClassTable) : WrittenExpr → Option Expr
  | var name type => do
    let type ← t.resolve? type
    return .var ⟨name,type⟩
  | literal text type => do
    let type ← t.resolve? type
    return .literal text type
  | null => return .null
  | assign name type value => do
    let type ← t.resolve? type
    let value ← value.resolve? t
    return .assign ⟨name,type⟩ value
  | call receiver name args => do
    let receiver ← receiver.resolve? t
    let args ← resolveAll? t args
    return .call receiver name args
  | new target args => do
    let target ← t.resolve? target
    let args ← resolveAll? t args
    return .new target args

def resolveAll? (t : ClassTable) : List WrittenExpr → Option (List Expr)
  | [] => return []
  | e :: rest => do
    let e ← e.resolve? t
    let rest ← resolveAll? t rest
    return e :: rest

end

mutual

/-- The names of types in an expression. -/
def typeNames : WrittenExpr → List String
  | var _ type => [type]
  | literal _ type => [type]
  | null => []
  | assign _ type value => type :: value.typeNames
  | call receiver _ args => receiver.typeNames ++ typeNamesAll args
  | new target args => target :: typeNamesAll args

def typeNamesAll : List WrittenExpr → List String
  | [] => []
  | e :: rest => e.typeNames ++ typeNamesAll rest

end

mutual

/-- An expression can be resolved when its names can. -/
theorem resolve_exists {t : ClassTable} (e : WrittenExpr)
    (known : ∀ name ∈ e.typeNames, (t.resolve? name).isSome) : ∃ x, e.resolve? t = some x := by
  cases e with
  | var name type =>
    obtain ⟨a,resolved⟩ := Option.isSome_iff_exists.mp (known type (by simp [typeNames]))
    exact ⟨.var ⟨name,a⟩,by simp [resolve?,resolved]⟩
  | literal text type =>
    obtain ⟨a,resolved⟩ := Option.isSome_iff_exists.mp (known type (by simp [typeNames]))
    exact ⟨.literal text a,by simp [resolve?,resolved]⟩
  | null => exact ⟨_,rfl⟩
  | assign name type value =>
    rw [typeNames,List.forall_mem_cons] at known
    obtain ⟨a,resolved⟩ := Option.isSome_iff_exists.mp known.1
    obtain ⟨x,inner⟩ := resolve_exists value known.2
    exact ⟨.assign ⟨name,a⟩ x,by simp [resolve?,resolved,inner]⟩
  | call receiver name args =>
    rw [typeNames,List.forall_mem_append] at known
    obtain ⟨x,inner⟩ := resolve_exists receiver known.1
    obtain ⟨xs,others⟩ := resolveAll_exists args known.2
    exact ⟨.call x name xs,by simp [resolve?,inner,others]⟩
  | new target args =>
    rw [typeNames,List.forall_mem_cons] at known
    obtain ⟨a,resolved⟩ := Option.isSome_iff_exists.mp known.1
    obtain ⟨xs,others⟩ := resolveAll_exists args known.2
    exact ⟨.new a xs,by simp [resolve?,resolved,others]⟩

theorem resolveAll_exists {t : ClassTable} (es : List WrittenExpr)
    (known : ∀ name ∈ typeNamesAll es, (t.resolve? name).isSome) : ∃ xs, resolveAll? t es = some xs := by
  cases es with
  | nil => exact ⟨_,rfl⟩
  | cons e rest =>
    rw [typeNamesAll,List.forall_mem_append] at known
    obtain ⟨x,first⟩ := resolve_exists e known.1
    obtain ⟨xs,others⟩ := resolveAll_exists rest known.2
    exact ⟨x :: xs,by simp [resolveAll?,first,others]⟩

end

end WrittenExpr

/-! ### Results that are the same -/

/-- The results are the same: successes that are related, or errors with the same types. -/
inductive SameResult (s t : ClassTable) {α β : Type} (R : α → β → Prop) :
    Except TypeError α → Except TypeError β → Prop
  | ok {a : α} {b : β} : R a b → SameResult s t R (.ok a) (.ok b)
  | error {err other : TypeError} : err.Alike (s.SameType t) other → SameResult s t R (.error err) (.error other)

section
variable {s t : ClassTable}

theorem sameResult_bind {α β γ δ : Type} {R : α → β → Prop} {S : γ → δ → Prop} {x : Except TypeError α}
    {y : Except TypeError β} {f : α → Except TypeError γ} {g : β → Except TypeError δ}
    (first : SameResult s t R x y) (next : ∀ a b, R a b → SameResult s t S (f a) (g b)) :
    SameResult s t S (x >>= f) (y >>= g) := by
  cases first with
  | ok related => exact next _ _ related
  | error alike => exact .error alike

namespace ClassTable

theorem typeName_agrees {a b : Ty} (same : s.SameType t a b) : s.typeName a = t.typeName b := by
  cases same with
  | primitive => rfl
  | null => rfl
  | object named =>
    obtain ⟨name,here,there⟩ := named
    obtain ⟨x,held,rfl⟩ := find_held here
    obtain ⟨y,held_there,named⟩ := find_held there
    simp only [typeName,held,held_there,named]

theorem lookupMethod_agrees (agrees : s.Agrees t) {on on' : Ty} (same : s.SameType t on on') (name : String) :
    SameResult s t (s.SameMethod t) (s.lookupMethod on name) (t.lookupMethod on' name) := by
  cases here : s.lookupMethod on name with
  | ok m =>
    obtain ⟨c,rfl,inherited⟩ := (s.lookupMethod_ok_iff on name m).mp here
    cases same with
    | object named =>
      obtain ⟨n,inherited_there,alike⟩ := inherits_agrees agrees named inherited
      rw [(t.lookupMethod_ok_iff _ name n).mpr ⟨_,rfl,inherited_there⟩]
      exact .ok alike
  | error err =>
    obtain ⟨nothing,rfl⟩ := (s.lookupMethod_error_iff on name err).mp here
    have nothing_there : ¬ ∃ d n, on' = .object d ∧ t.Inherits name d n := by
      rintro ⟨d,n,rfl,inherited⟩
      cases same with
      | object named =>
        obtain ⟨m,inherited_here,_⟩ := inherits_agrees (agrees_symm agrees) (sameName_symm named) inherited
        exact nothing ⟨_,m,rfl,inherited_here⟩
    rw [(t.lookupMethod_error_iff on' name _).mpr ⟨nothing_there,rfl⟩]
    exact .error (.noSuchMethod name same)

/-! ### The rules -/

theorem assignRule_agrees (agrees : s.Agrees t) (name : String) {declared declared' found found' : Ty}
    (places : s.SameType t declared declared') (values : s.SameType t found found') :
    SameResult s t (s.SameType t) (s.assignRule ⟨name,declared⟩ found) (t.assignRule ⟨name,declared'⟩ found') := by
  rw [assignRule,assignRule,isSubtype_agrees agrees values places]
  split
  · exact .ok places
  · exact .error (.assignment name places values)

private theorem all_agrees (agrees : s.Agrees t) {params params' found found' : List Ty}
    (expected : List.Forall₂ (s.SameType t) params params') (given : List.Forall₂ (s.SameType t) found found') :
    ((found.zip params).all fun (arg,param) => s.isSubtype arg param) =
      (found'.zip params').all fun (arg,param) => t.isSubtype arg param := by
  induction given generalizing params params' with
  | nil => rfl
  | cons first _ ih =>
    cases expected with
    | nil => rfl
    | cons param params =>
      simp only [List.zip_cons_cons,List.all_cons,isSubtype_agrees agrees first param,ih params]

theorem matchArguments_agrees (agrees : s.Agrees t) {callee callee' : Callee}
    {params params' found found' : List Ty} (called : callee.Alike (s.SameType t) callee')
    (expected : List.Forall₂ (s.SameType t) params params') (given : List.Forall₂ (s.SameType t) found found') :
    SameResult s t (fun _ _ => True) (s.matchArguments callee params found)
      (t.matchArguments callee' params' found') := by
  rw [matchArguments,matchArguments,expected.length_eq,given.length_eq,all_agrees agrees expected given]
  split
  · exact .error (.argumentCount _ _ called)
  · split
    · exact .ok trivial
    · exact .error (.arguments called expected given)

theorem callRule_agrees (agrees : s.Agrees t) {on on' : Ty} (same : s.SameType t on on') (name : String)
    {found found' : List Ty} (given : List.Forall₂ (s.SameType t) found found') :
    SameResult s t (s.SameType t) (s.callRule on name found) (t.callRule on' name found') := by
  apply sameResult_bind (lookupMethod_agrees agrees same name)
  intro m n methods
  apply sameResult_bind (matchArguments_agrees agrees (.method name same) methods.params given)
  intro _ _ _
  exact .ok methods.returns

theorem newRule_agrees (agrees : s.Agrees t) {target target' : Ty} (same : s.SameType t target target')
    {found found' : List Ty} (given : List.Forall₂ (s.SameType t) found found') :
    SameResult s t (s.SameType t) (s.newRule target found) (t.newRule target' found') := by
  have root : s.SameType t s.objectType t.objectType := .object agrees.object
  rw [newRule,newRule,isSubtype_agrees agrees same root]
  split
  · have constructors := constructor_agrees agrees same
    generalize s.constructor? target = params at constructors ⊢
    generalize t.constructor? target' = params' at constructors ⊢
    cases constructors with
    | none => exact .error (.illegalInstantiation same)
    | some expected =>
      apply sameResult_bind (matchArguments_agrees agrees (.constructor same) expected given)
      intro _ _ _
      exact .ok same
  · exact .error (.illegalInstantiation same)

end ClassTable

/-! ### The checker -/

mutual

/-- The check of an expression goes the same way in both tables. -/
theorem check_agrees (agrees : s.Agrees t) (e : WrittenExpr) {x y : Expr} (here : e.resolve? s = some x)
    (there : e.resolve? t = some y) : SameResult s t (s.SameType t) (x.check s).result (y.check t).result := by
  cases e with
  | var | literal =>
    all_goals
      simp only [WrittenExpr.resolve?,Option.bind_eq_bind,Option.bind_eq_some_iff,Option.pure_def,
        Option.some.injEq] at here there
      obtain ⟨a,resolved,rfl⟩ := here
      obtain ⟨b,resolved_there,rfl⟩ := there
      exact .ok (ClassTable.sameType_of_resolve resolved resolved_there)
  | null =>
    cases here
    cases there
    exact .ok .null
  | assign name type value =>
    simp only [WrittenExpr.resolve?,Option.bind_eq_bind,Option.bind_eq_some_iff,Option.pure_def,
      Option.some.injEq] at here there
    obtain ⟨a,resolved,inner,value_here,rfl⟩ := here
    obtain ⟨b,resolved_there,other,value_there,rfl⟩ := there
    simp only [Expr.check,Outcome.result_close,Outcome.result_bind,Outcome.result_judge]
    apply sameResult_bind (check_agrees agrees value value_here value_there)
    intro found found' values
    exact ClassTable.assignRule_agrees agrees name (ClassTable.sameType_of_resolve resolved resolved_there) values
  | call receiver name args =>
    simp only [WrittenExpr.resolve?,Option.bind_eq_bind,Option.bind_eq_some_iff,Option.pure_def,
      Option.some.injEq] at here there
    obtain ⟨inner,receiver_here,xs,args_here,rfl⟩ := here
    obtain ⟨other,receiver_there,ys,args_there,rfl⟩ := there
    simp only [Expr.check,Outcome.result_close,Outcome.result_bind,Outcome.result_judge]
    apply sameResult_bind (check_agrees agrees receiver receiver_here receiver_there)
    intro on on' receivers
    apply sameResult_bind (checkAll_agrees agrees args args_here args_there)
    intro found found' given
    exact ClassTable.callRule_agrees agrees receivers name given
  | new target args =>
    simp only [WrittenExpr.resolve?,Option.bind_eq_bind,Option.bind_eq_some_iff,Option.pure_def,
      Option.some.injEq] at here there
    obtain ⟨a,resolved,xs,args_here,rfl⟩ := here
    obtain ⟨b,resolved_there,ys,args_there,rfl⟩ := there
    simp only [Expr.check,Outcome.result_close,Outcome.result_bind,Outcome.result_judge]
    apply sameResult_bind (checkAll_agrees agrees args args_here args_there)
    intro found found' given
    exact ClassTable.newRule_agrees agrees (ClassTable.sameType_of_resolve resolved resolved_there) given

theorem checkAll_agrees (agrees : s.Agrees t) (es : List WrittenExpr) {xs ys : List Expr}
    (here : WrittenExpr.resolveAll? s es = some xs) (there : WrittenExpr.resolveAll? t es = some ys) :
    SameResult s t (List.Forall₂ (s.SameType t)) (Expr.checkAll s xs).result (Expr.checkAll t ys).result := by
  cases es with
  | nil =>
    cases here
    cases there
    exact .ok .nil
  | cons e rest =>
    simp only [WrittenExpr.resolveAll?,Option.bind_eq_bind,Option.bind_eq_some_iff,Option.pure_def,
      Option.some.injEq] at here there
    obtain ⟨x,first,xs,others,rfl⟩ := here
    obtain ⟨y,first_there,ys,others_there,rfl⟩ := there
    simp only [Expr.checkAll,Outcome.result_bind,Outcome.result_pure]
    apply sameResult_bind (check_agrees agrees e first first_there)
    intro a b same
    apply sameResult_bind (checkAll_agrees agrees rest others others_there)
    intro as bs rest_same
    exact .ok (.cons same rest_same)

end

/-! ### Diagnostics -/

theorem ofError_agrees {err other : TypeError} (alike : err.Alike (s.SameType t) other) :
    Diagnostic.ofError s err = Diagnostic.ofError t other := by
  have message := ClassTable.explain_alike (fun _ _ => ClassTable.typeName_agrees) alike
  rw [Diagnostic.ofError,Diagnostic.ofError,kind_alike alike,message]

/-- Expressions give the same diagnostics in both tables, in the same order. -/
theorem diagnose_agrees (agrees : s.Agrees t) (es : List WrittenExpr) {xs ys : List Expr}
    (here : WrittenExpr.resolveAll? s es = some xs) (there : WrittenExpr.resolveAll? t es = some ys) :
    diagnose s xs = diagnose t ys := by
  induction es generalizing xs ys with
  | nil =>
    cases here
    cases there
    rfl
  | cons e rest ih =>
    simp only [WrittenExpr.resolveAll?,Option.bind_eq_bind,Option.bind_eq_some_iff,Option.pure_def,
      Option.some.injEq] at here there
    obtain ⟨x,first,xs,others,rfl⟩ := here
    obtain ⟨y,first_there,ys,others_there,rfl⟩ := there
    have later := ih others others_there
    have checked := check_agrees agrees e first first_there
    unfold diagnose at later ⊢
    rw [List.filterMap_cons,List.filterMap_cons,later]
    generalize (x.check s).result = left at checked ⊢
    generalize (y.check t).result = right at checked ⊢
    cases checked with
    | ok => rfl
    | error alike => simp only [ofError_agrees alike]

end

/-- Expressions that are written with the types of the entries can be resolved in the table built from
    them. -/
theorem resolveAll_built {c : Config} {t : ClassTable} (built : c.build = .ok t) {es : List WrittenExpr}
    (written : ∀ name ∈ WrittenExpr.typeNamesAll es, Config.KnownType c.classes name) :
    ∃ xs, WrittenExpr.resolveAll? t es = some xs := by
  apply WrittenExpr.resolveAll_exists
  intro name member
  exact (Config.built_knows built name).mpr (written name member)

/-- More entries, in whatever order, do not change what is reported about expressions that are written with
    the types of the fewer. -/
theorem diagnose_stable (a b : Config) (s t : ClassTable) (inside : a.classes ⊆ b.classes)
    (here : a.build = .ok s) (there : b.build = .ok t) (es : List WrittenExpr)
    (written : ∀ name ∈ WrittenExpr.typeNamesAll es, Config.KnownType a.classes name) :
    ∃ xs ys, WrittenExpr.resolveAll? s es = some xs ∧ WrittenExpr.resolveAll? t es = some ys ∧
      diagnose s xs = diagnose t ys := by
  have written_there : ∀ name ∈ WrittenExpr.typeNamesAll es, Config.KnownType b.classes name :=
    fun name member => Config.knownType_mono inside (written name member)
  obtain ⟨xs,resolved⟩ := resolveAll_built here written
  obtain ⟨ys,resolved_there⟩ := resolveAll_built there written_there
  exact ⟨xs,ys,resolved,resolved_there,
    diagnose_agrees (Config.build_agrees inside here there) es resolved resolved_there⟩

/-- The entries of another table from the last to the first, after one of a further class. -/
def Config.withCat : Config :=
  { classes := { name := "Cat", methods := [{ name := "flee", params := ["Dog"] }] } ::
      Config.forwardReference.classes.reverse }

/-- An animal taken for a dog, and a dog sent after a number. -/
def dogTricks : List WrittenExpr :=
  [.assign "d" "Dog" (.new "Animal" [.literal "Rex" "String",.null]),
   .call (.var "d" "Dog") "fetch" [.literal "1" "int"]]

theorem dogTricks_stable :
    ∃ s t xs ys, Config.forwardReference.build = .ok s ∧ Config.withCat.build = .ok t ∧
      s.find? "Dog" ≠ t.find? "Dog" ∧ WrittenExpr.resolveAll? s dogTricks = some xs ∧
      WrittenExpr.resolveAll? t dogTricks = some ys ∧ (diagnose s xs).length = 2 ∧
      diagnose s xs = diagnose t ys := by
  have computed : (Config.forwardReference.build.toOption.any fun s =>
      Config.withCat.build.toOption.any fun t => s.find? "Dog" != t.find? "Dog" &&
        (WrittenExpr.resolveAll? s dogTricks).any fun xs => (diagnose s xs).length == 2) = true := by
    decide +kernel
  cases here : Config.forwardReference.build with
  | error e => rw [here] at computed; cases computed
  | ok s =>
    cases there : Config.withCat.build with
    | error e => rw [here,there] at computed; cases computed
    | ok t =>
      have inside : Config.forwardReference.classes ⊆ Config.withCat.classes := by
        intro entry member
        exact List.mem_cons_of_mem _ (List.mem_reverse.mpr member)
      obtain ⟨xs,ys,resolved,resolved_there,same⟩ := diagnose_stable Config.forwardReference Config.withCat s t
        inside here there dogTricks (by unfold Config.KnownType; decide)
      have facts : s.find? "Dog" ≠ t.find? "Dog" ∧ (diagnose s xs).length = 2 := by
        simpa [here,there,resolved,Except.toOption] using computed
      exact ⟨s,t,xs,ys,rfl,rfl,facts.1,resolved,resolved_there,facts.2,same⟩

end Nominal
