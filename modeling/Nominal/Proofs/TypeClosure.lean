import Nominal.Proofs.BuiltTable
import Nominal.Proofs.ErrorTypes
import Nominal.Proofs.Nodes

/-!
The types that checking can come to. Where the signatures of a table mention known types only, and the
expression is written with known types, no other types arise: not as the type of a node and not in an
error. So the message of an error always has a name for every type in it.
-/

namespace Nominal

namespace Expr

/-- The type that is written in a node itself. -/
def annotation? : Expr → Option Ty
  | var v => some v.type
  | literal _ type => some type
  | null => none
  | assign v _ => some v.type
  | call .. => none
  | new target _ => some target

/-- The types written in the nodes of an expression. -/
def annotations (e : Expr) : List Ty := e.postorder.filterMap annotation?

theorem mem_annotations {e : Expr} {a : Ty} (written : e.annotation? = some a) : a ∈ e.annotations := by
  refine List.mem_filterMap.mpr ⟨e,?_,written⟩
  rw [postorder_eq]
  exact List.mem_append_right _ List.mem_cons_self

theorem annotations_node {e node : Expr} (member : node ∈ e.postorder) : node.annotations ⊆ e.annotations := by
  intro a written
  obtain ⟨inner,inside,here⟩ := List.mem_filterMap.mp written
  exact List.mem_filterMap.mpr ⟨inner,postorder_subset e node member inside,here⟩

theorem annotations_part {e part : Expr} (member : part ∈ e.parts) : part.annotations ⊆ e.annotations := by
  apply annotations_node
  obtain ⟨left,right,split⟩ := List.append_of_mem member
  rw [postorder_eq,split,postorderAll_append,postorderAll,postorder_eq part]
  simp

end Expr

namespace ClassTable

/-- The name of a known type leads back to the type. -/
theorem resolve_typeName {t : ClassTable} (formed : t.WellFormed) {a : Ty} (known : t.Known a) :
    t.resolve? (t.typeName a) = some a := by
  cases a with
  | primitive p => cases p <;> rfl
  | null => rfl
  | object c =>
    obtain ⟨d,held⟩ := known
    obtain ⟨unreserved,not_null⟩ := (formed.proper c d held).unreserved
    have free : Primitive.ofKeyword? d.name = none := by
      rw [Primitive.ofKeyword?,List.find?_eq_none]
      intro p _ same
      exact unreserved p (beq_iff_eq.mp same).symm
    simp only [typeName,held,resolve?,free,not_null,if_false,find_of_get formed.distinct held,Option.map_some]

/-- A name that stands for a type is the name that the type goes by. -/
theorem typeName_of_resolve {t : ClassTable} {name : String} {a : Ty} (resolved : t.resolve? name = some a) :
    t.typeName a = name := by
  unfold resolve? at resolved
  split at resolved
  · rename_i p word
    cases resolved
    have found : Primitive.all.find? (·.keyword == name) = some p := word
    have same := List.find?_some found
    exact beq_iff_eq.mp same
  · split at resolved
    · cases resolved
      exact Eq.symm ‹_›
    · obtain ⟨c,found,rfl⟩ := Option.map_eq_some_iff.mp resolved
      obtain ⟨d,held,named⟩ := find_held found
      rw [typeName,held]
      exact named

/-- In a well-formed table only the name of a class stands for it. -/
theorem resolve_object_iff {t : ClassTable} (formed : t.WellFormed) {name : String} {c : ClassId}
    (found : t.find? name = some c) (word : String) : t.resolve? word = some (.object c) ↔ word = name := by
  obtain ⟨d,held,named⟩ := find_held found
  have spelt : t.typeName (.object c) = name := by
    rw [typeName,held]
    exact named
  constructor
  · exact fun resolved => (typeName_of_resolve resolved).symm.trans spelt
  · rintro rfl
    rw [← spelt]
    exact resolve_typeName formed ⟨d,held⟩

/-- The error mentions known types only, and its message is put together from their names: they lead back
    to the types, and the names of other types do not enter into it. -/
structure Spells (t : ClassTable) (err : TypeError) : Prop where
  known : ∀ a ∈ err.types, t.Known a
  named : ∀ a ∈ err.types, t.resolve? (t.typeName a) = some a
  message : ∀ u : ClassTable, (∀ a, t.Known a → u.typeName a = t.typeName a) → u.explain err = t.explain err

theorem spells_known {t : ClassTable} (formed : t.WellFormed) {err : TypeError}
    (known : ∀ a ∈ err.types, t.Known a) : t.Spells err := by
  refine ⟨known,fun a member => resolve_typeName formed (known a member),?_⟩
  intro u named
  have alike : err.Alike (fun a b => a = b ∧ t.Known a) err :=
    alike_self fun a member => ⟨rfl,known a member⟩
  apply explain_alike _ alike
  rintro a b ⟨rfl,here⟩
  exact named a here

/-- The types of a result are known: that of a success, and those in an error. -/
def Yields (t : ClassTable) : Except TypeError Ty → Prop
  | .ok a => t.Known a
  | .error err => ∀ a ∈ err.types, t.Known a

/-- The result is a known type, or an error that is spelt out in full. -/
def Intelligible (t : ClassTable) : Except TypeError Ty → Prop
  | .ok a => t.Known a
  | .error err => t.Spells err

theorem intelligible_of_yields {t : ClassTable} (formed : t.WellFormed) {result : Except TypeError Ty}
    (yields : t.Yields result) : t.Intelligible result := by
  cases result with
  | ok a => exact yields
  | error err => exact spells_known formed yields

end ClassTable

/-! ### Types of nodes -/

section
variable {t : ClassTable}

theorem inherits_known (closed : t.Closed) {name : String} {c : ClassId} {m : Method}
    (inherited : t.Inherits name c m) : ∀ a ∈ m.params ++ [m.returns], t.Known a := by
  induction inherited with
  | @own c m declared =>
    obtain ⟨d,before,after,held,split,_⟩ := declared
    have signatures := closed c d held
    rw [ClassDecl.signatureTypes,List.forall_mem_append,List.forall_mem_flatMap] at signatures
    exact signatures.2 m (by simp [split])
  | up _ _ _ ih => exact ih

theorem hasType_known (closed : t.Closed) {e : Expr} {type : Ty} (typed : HasType t e type)
    (annotated : ∀ a ∈ e.annotations, t.Known a) : t.Known type := by
  cases typed with
  | var v => exact annotated _ (Expr.mem_annotations rfl)
  | literal text type => exact annotated _ (Expr.mem_annotations rfl)
  | null => trivial
  | assign => exact annotated _ (Expr.mem_annotations rfl)
  | call _ inherited => exact inherits_known closed inherited _ (by simp)
  | new held => exact ⟨_,held⟩

theorem hasTypes_known (closed : t.Closed) {es : List Expr} {types : List Ty}
    (typed : List.Forall₂ (HasType t) es types) (annotated : ∀ e ∈ es, ∀ a ∈ e.annotations, t.Known a) :
    ∀ a ∈ types, t.Known a := by
  induction typed with
  | nil => simp
  | cons first _ ih =>
    rw [List.forall_mem_cons] at annotated ⊢
    exact ⟨hasType_known closed first annotated.1,ih annotated.2⟩

/-! ### Types in errors -/

theorem mismatch_known {callee : Callee} {params found : List Ty} {err : TypeError}
    (mismatch : Mismatch t callee params found err) (called : t.Known callee.type)
    (expected : ∀ a ∈ params, t.Known a) (given : ∀ a ∈ found, t.Known a) : ∀ a ∈ err.types, t.Known a := by
  cases mismatch with
  | count => simpa [TypeError.types] using called
  | types =>
    simp only [TypeError.types,List.forall_mem_cons,List.forall_mem_append]
    exact ⟨called,expected,given⟩

/-- A node that breaks its rule has known types in its error. -/
theorem breach_known (closed : t.Closed) {e : Expr} {err : TypeError} (breach : Breach t e err)
    (annotated : ∀ a ∈ e.annotations, t.Known a) : ∀ a ∈ err.types, t.Known a := by
  have parts (part : Expr) (member : part ∈ e.parts) : ∀ a ∈ part.annotations, t.Known a :=
    fun a written => annotated a (Expr.annotations_part member written)
  cases breach with
  | @assignment v value found typed =>
    have declared : t.Known v.type := annotated _ (Expr.mem_annotations rfl)
    have given : t.Known found := hasType_known closed typed (parts value (by simp [Expr.parts]))
    simpa [TypeError.types] using ⟨declared,given⟩
  | @noSuchMethod receiver name args on found typed =>
    simpa [TypeError.types] using hasType_known closed typed (parts receiver (by simp [Expr.parts]))
  | @call receiver name args c found m err typed arguments inherited mismatch =>
    have called : t.Known (.object c) := hasType_known closed typed (parts receiver (by simp [Expr.parts]))
    have signature := inherits_known closed inherited
    rw [List.forall_mem_append] at signature
    exact mismatch_known mismatch called signature.1
      (hasTypes_known closed arguments fun e member => parts e (List.mem_cons_of_mem _ member))
  | illegalInstantiation => simpa [TypeError.types] using annotated _ (Expr.mem_annotations rfl)
  | @new target args found d err arguments legal mismatch =>
    have called : t.Known target := annotated _ (Expr.mem_annotations rfl)
    obtain ⟨c,rfl,held,_⟩ := legal
    have signatures := closed c d held
    rw [ClassDecl.signatureTypes,List.forall_mem_append] at signatures
    exact mismatch_known mismatch called signatures.1 (hasTypes_known closed arguments parts)

/-! ### Results -/

theorem check_yields (closed : t.Closed) {e : Expr} (annotated : ∀ a ∈ e.annotations, t.Known a) :
    t.Yields (e.check t).result := by
  cases checked : (e.check t).result with
  | ok type => exact hasType_known closed ((check_ok_iff t e type).mp checked) annotated
  | error err =>
    -- The error is that of a node, which is written with types of the whole.
    obtain ⟨before,node,after,split,_,breach⟩ := (check_error_iff t e err).mp checked
    have inside : node ∈ e.postorder := by simp [split]
    exact breach_known closed breach fun a written => annotated a (Expr.annotations_node inside written)

theorem lookup_yields (closed : t.Closed) {receiver : Ty} (known : t.Known receiver) (name : String) :
    t.Yields (t.lookupMethod receiver name >>= fun m => pure m.returns) := by
  cases found : t.lookupMethod receiver name with
  | ok m =>
    obtain ⟨c,_,inherited⟩ := (t.lookupMethod_ok_iff receiver name m).mp found
    exact inherits_known closed inherited m.returns (by simp)
  | error err =>
    obtain ⟨_,rfl⟩ := (t.lookupMethod_error_iff receiver name err).mp found
    exact List.forall_mem_singleton.mpr known

/-- Only receivers are looked into, so the induction goes down along them. -/
theorem staticType_yields (closed : t.Closed) (e : Expr) (annotated : ∀ a ∈ e.annotations, t.Known a) :
    t.Yields (e.staticType t) := by
  cases e with
  | var v => exact annotated _ (Expr.mem_annotations rfl)
  | literal text type => exact annotated _ (Expr.mem_annotations rfl)
  | null => trivial
  | assign v value => exact annotated _ (Expr.mem_annotations rfl)
  | new target args => exact annotated _ (Expr.mem_annotations rfl)
  | call receiver name args =>
    have inner := staticType_yields closed receiver fun a written =>
      annotated a (Expr.annotations_part (by simp [Expr.parts]) written)
    rw [Expr.staticType]
    cases found : receiver.staticType t with
    | error err =>
      rw [found] at inner
      exact inner
    | ok on =>
      rw [found] at inner
      exact lookup_yields closed inner name

end

/-- Known types lead to known types only. In a table that a configuration has built, signatures mention
    known types; and over an expression that is written with known types, reading off its type and
    checking it give a known type or an error that is spelt out in full. -/
theorem build_typeClosed (c : Config) (t : ClassTable) (built : c.build = .ok t) :
    t.Closed ∧ ∀ e : Expr, (∀ a ∈ e.annotations, t.Known a) →
      t.Intelligible (e.staticType t) ∧ t.Intelligible (e.check t).result := by
  have closed := Config.build_closed built
  have formed := ClassTable.grown_wellFormed (Config.build_grown built)
  refine ⟨closed,?_⟩
  intro e annotated
  exact ⟨ClassTable.intelligible_of_yields formed (staticType_yields closed e annotated),
    ClassTable.intelligible_of_yields formed (check_yields closed annotated)⟩

/-- An animal is made and then taken for a dog. -/
def animalAsDog : Expr :=
  .assign ⟨"d",.object ⟨3⟩⟩ (.new (.object ⟨2⟩) [.literal "Rex" (.object ⟨1⟩),.null])

theorem animalAsDog_spelt :
    ∃ t, Config.forwardReference.build = .ok t ∧ (∀ a ∈ animalAsDog.annotations, t.Known a) ∧
      (animalAsDog.check t).result = .error (.assignment "d" (.object ⟨3⟩) (.object ⟨2⟩)) ∧
      t.Spells (.assignment "d" (.object ⟨3⟩) (.object ⟨2⟩)) := by
  have computed : (Config.forwardReference.build.toOption.any fun t =>
      decide (∀ a ∈ animalAsDog.annotations, t.Known a) &&
        decide ((animalAsDog.check t).result =
          .error (.assignment "d" (.object ⟨3⟩) (.object ⟨2⟩)))) = true := by decide +kernel
  cases built : Config.forwardReference.build with
  | error e => rw [built] at computed; cases computed
  | ok t =>
    rw [built] at computed
    obtain ⟨annotated,failed⟩ : (∀ a ∈ animalAsDog.annotations, t.Known a) ∧
        (animalAsDog.check t).result = .error (.assignment "d" (.object ⟨3⟩) (.object ⟨2⟩)) := by
      simpa [Except.toOption] using computed
    have checked := ((build_typeClosed Config.forwardReference t built).2 animalAsDog annotated).2
    rw [failed] at checked
    exact ⟨t,rfl,annotated,failed,checked⟩

end Nominal
