import Nominal.Proofs.FirstError
import Nominal.Proofs.MethodAddition

/-!
Which types can be instantiated. The rule of a constructor call asks whether the target is below the root class
and whether the table holds it. In a table grown by registration every class is below the root, so the second
question decides alone: the classes of the table can be instantiated, and nothing else. How the arguments are
matched is settled by the constructor of the class itself. Constructors are not inherited, so a change to the
constructor of another class is not felt.
-/

namespace Nominal

namespace ClassTable

/-- The type is that of a class of the table. -/
def HasClass (t : ClassTable) (a : Ty) : Prop := ∃ d c, a = .object c ∧ t.get? c = some d

/-- What a constructor call gives, by the parameters of the constructor and the types of the arguments: the
    target if the arguments fit one by one, and otherwise a mismatch of their number or of their types. -/
structure Decided (t : ClassTable) (target : Ty) (params found : List Ty) (result : Except TypeError Ty) :
    Prop where
  ok : ∀ type, result = .ok type ↔ List.Forall₂ t.Below found params ∧ target = type
  error : ∀ err, result = .error err ↔ Mismatch t (.constructor target) params found err

section
variable {t : ClassTable} {target : Ty}

/-! ### The target -/

theorem instantiable_iff_held (formed : t.WellFormed) (d : ClassDecl) :
    t.Instantiable target d ↔ ∃ c, target = .object c ∧ t.get? c = some d := by
  constructor
  · rintro ⟨c,same,held,_⟩
    exact ⟨c,same,held⟩
  · rintro ⟨c,rfl,held⟩
    exact ⟨c,rfl,held,.links (reaches_object formed held)⟩

theorem newRule_illegal_iff (formed : t.WellFormed) (found : List Ty) :
    t.newRule target found = .error (.illegalInstantiation target) ↔ ¬ t.HasClass target := by
  simp only [newRule_error_iff,instantiable_iff_held formed,mismatch_iff]
  constructor
  · rintro (⟨absent,_⟩ | ⟨d,_,mismatch⟩)
    · exact absent
    · -- A mismatch is about the arguments, never about the target.
      cases mismatch
  · exact fun absent => .inl ⟨absent,trivial⟩

/-! ### The constructor -/

theorem newRule_decided (formed : t.WellFormed) {c : ClassId} {d : ClassDecl} (held : t.get? c = some d)
    (found : List Ty) : t.Decided (.object c) d.constructor found (t.newRule (.object c) found) := by
  have legal : t.Instantiable (.object c) d := (instantiable_iff_held formed d).mpr ⟨c,rfl,held⟩
  rw [newRule_instantiable legal]
  constructor
  case ok =>
    intro type
    simp only [bind_ok_iff,pure_ok_iff,matchArguments_ok_iff,exists_const]
  case error =>
    intro err
    rw [bind_pure_error_iff,mismatch_iff]

/-- The rule asks for nothing but subtypes and the constructor of the target itself. -/
theorem newRule_congr {next : ClassTable} (root : next.object = t.object)
    (subtypes : ∀ low high, next.isSubtype low high = t.isSubtype low high)
    (own : next.constructor? target = t.constructor? target) (found : List Ty) :
    next.newRule target found = t.newRule target found := by
  simp only [newRule,matchArguments,objectType,root,subtypes,own]

theorem isSubtype_congr {next : ClassTable} (chains : ∀ c, next.ancestors c = t.ancestors c) (low high : Ty) :
    next.isSubtype low high = t.isSubtype low high := by
  simp only [isSubtype,chains]

/-- A new constructor of another class leaves the rule for the target as it is. -/
theorem newRule_setConstructor {next : ClassTable} {other : ClassId} {params : List Ty}
    (set : t.setConstructor other params = .ok next) (different : target ≠ .object other) (found : List Ty) :
    next.newRule target found = t.newRule target found := by
  obtain ⟨d,held,rfl⟩ := (t.setConstructor_ok_iff other params next).mp set
  apply newRule_congr
  case root => rfl
  case subtypes => exact isSubtype_congr (ancestors_put held (by rfl))
  case own =>
    cases target with
    | object c =>
      have apart : c ≠ other := fun same => different (congrArg Ty.object same)
      rw [constructor?,get_put_other apart,constructor?]
    | primitive | null => all_goals rfl

end

end ClassTable

section
variable {t next : ClassTable} {args : List Expr}

/-- Where the arguments have types, the rule of the constructor call gives the result of the check. -/
theorem check_new {found : List Ty} (typed : List.Forall₂ (HasType t) args found) (target : Ty) :
    ((Expr.new target args).check t).result = t.newRule target found := by
  rw [Expr.check,Outcome.result_close,Outcome.result_bind,(checkAll_ok_iff t args found).mpr typed]
  exact Outcome.result_judge _ _

theorem checkAll_congr (same : ∀ arg ∈ args, (arg.check next).result = (arg.check t).result) :
    (Expr.checkAll next args).result = (Expr.checkAll t args).result := by
  induction args with
  | nil => rfl
  | cons arg rest ih =>
    rw [List.forall_mem_cons] at same
    simp only [Expr.checkAll,Outcome.result_bind,Outcome.result_pure,same.1,ih same.2]

end

/-- Instantiability in tables grown by registration, for arguments that pass. A constructor call is illegal
    exactly if its target is not a class of the table. For a class of the table the result is decided by its
    own constructor, and no constructor of another class has a part in it. -/
theorem new_decided (t : ClassTable) (grown : t.Grown) (target : Ty) (args : List Expr)
    (pass : ∀ arg ∈ args, arg.verdict t = .ok ()) :
    ((Expr.new target args).verdict t = .error (.illegalInstantiation target) ↔ ¬ t.HasClass target) ∧
      (∃ found, List.Forall₂ (fun arg type => (arg.check t).result = .ok type) args found ∧
        ∀ c d, target = .object c → t.get? c = some d →
          t.Decided target d.constructor found ((Expr.new target args).check t).result) ∧
      ∀ other params next, t.setConstructor other params = .ok next → target ≠ .object other →
        (∀ arg ∈ args, (arg.check next).result = (arg.check t).result) →
          ((Expr.new target args).check next).result = ((Expr.new target args).check t).result := by
  have formed := ClassTable.grown_wellFormed grown
  obtain ⟨found,typed⟩ := hasTypes_of_verdicts pass
  refine ⟨?_,⟨found,?_,?_⟩,?_⟩
  · rw [verdict_error_iff,check_new typed,ClassTable.newRule_illegal_iff formed]
  · exact typed.imp fun arg type => (check_ok_iff t arg type).mpr
  · rintro c d rfl held
    rw [check_new typed]
    exact ClassTable.newRule_decided formed held found
  · intro other params next set different same
    simp only [Expr.check,Outcome.result_close,Outcome.result_bind,Outcome.result_judge,checkAll_congr same,
      ClassTable.newRule_setConstructor set different]

/-- Animals are made with a name, and dogs without one. -/
def namedAnimals : ClassTable :=
  (Registry.builtin.run [.addClass "Animal" none,.addClass "Dog" (some ⟨2⟩),
    .setConstructor ⟨2⟩ [.object ⟨1⟩]]).table

/-- The constructor of the superclass is not inherited, and a position without a class is no target. -/
theorem namedAnimals_decided :
    namedAnimals.Grown ∧
      (∀ arg ∈ [Expr.literal "Rex" (.object ⟨1⟩)], arg.verdict namedAnimals = .ok ()) ∧
      ((Expr.new (.object ⟨3⟩) [.literal "Rex" (.object ⟨1⟩)]).check namedAnimals).result =
        .error (.argumentCount (.constructor (.object ⟨3⟩)) 0 1) ∧
      (Expr.new (.object ⟨4⟩) [.literal "Rex" (.object ⟨1⟩)]).verdict namedAnimals =
        .error (.illegalInstantiation (.object ⟨4⟩)) := by
  have grown : namedAnimals.Grown := ⟨_,rfl⟩
  have pass : ∀ arg ∈ [Expr.literal "Rex" (.object ⟨1⟩)], arg.verdict namedAnimals = .ok () :=
    List.forall_mem_singleton.mpr rfl
  have unknown : ¬ namedAnimals.HasClass (.object ⟨4⟩) := by
    rintro ⟨d,c,same,held⟩
    cases same
    cases held
  refine ⟨grown,pass,?_,(new_decided namedAnimals grown (.object ⟨4⟩) _ pass).1.mpr unknown⟩
  obtain ⟨found,typed,decided⟩ := (new_decided namedAnimals grown (.object ⟨3⟩) _ pass).2.1
  have one : found.length = 1 := typed.length_eq.symm
  have mismatch : Mismatch namedAnimals (.constructor (.object ⟨3⟩)) [] found
      (.argumentCount (.constructor (.object ⟨3⟩)) 0 1) := one ▸ .count (by simp [one])
  exact ((decided ⟨3⟩ ⟨"Dog",some ⟨2⟩,[],[]⟩ rfl rfl).error _).mpr mismatch

end Nominal
