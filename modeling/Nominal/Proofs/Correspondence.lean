import Mathlib.Data.List.Forall2
import Nominal.Proofs.Hierarchy
import Nominal.Proofs.Registration

/-!
Tables that hold the same classes at different positions. Classes go by their names, so a class of one
table is compared with the class of that name in the other, and a type in a signature with the type that
is called the same. Where two tables agree on the classes that both hold, subtyping and the look-up of
members go the same way in both, whatever other classes either of them has.
-/

namespace Nominal.ClassTable

/-- Some name is that of the first class in one table and that of the second class in the other. -/
def SameName (s t : ClassTable) (c d : ClassId) : Prop :=
  ∃ name, s.find? name = some c ∧ t.find? name = some d

/-- The types are the same, with classes by their names. -/
inductive SameType (s t : ClassTable) : Ty → Ty → Prop
  | primitive (p : Primitive) : SameType s t (.primitive p) (.primitive p)
  | null : SameType s t .null .null
  | object {c d : ClassId} : SameName s t c d → SameType s t (.object c) (.object d)

/-- The methods have the same name and the same types. -/
structure SameMethod (s t : ClassTable) (m n : Method) : Prop where
  name : m.name = n.name
  params : List.Forall₂ (SameType s t) m.params n.params
  returns : SameType s t m.returns n.returns

/-- The classes have the same name, superclasses of the same name, the same constructor and the same
    methods in the same order. -/
structure SameClass (s t : ClassTable) (x y : ClassDecl) : Prop where
  name : x.name = y.name
  superclass : Option.Rel (SameName s t) x.superclass y.superclass
  constructor : List.Forall₂ (SameType s t) x.constructor y.constructor
  methods : List.Forall₂ (SameMethod s t) x.methods y.methods

/-- A class that both tables hold is the same in both. Its superclass and the classes in its signatures
    are then among those that both hold. -/
structure Agrees (s t : ClassTable) : Prop where
  object : SameName s t s.object t.object
  classes : ∀ c d, SameName s t c d →
    ∃ x y, s.get? c = some x ∧ t.get? d = some y ∧ SameClass s t x y

private theorem rel_some_left {α β : Type} {R : α → β → Prop} {a : α} {y : Option β}
    (related : Option.Rel R (some a) y) : ∃ b, y = some b ∧ R a b := by
  cases related with
  | some here => exact ⟨_,rfl,here⟩

private theorem rel_turn {α β : Type} {R : α → β → Prop} {S : β → α → Prop} (turn : ∀ a b, R a b → S b a)
    {x : Option α} {y : Option β} (related : Option.Rel R x y) : Option.Rel S y x := by
  cases related with
  | none => exact .none
  | some here => exact .some (turn _ _ here)

/-! ### The comparison can be turned round -/

section
variable {s t : ClassTable}

theorem sameName_symm {c d : ClassId} (same : SameName s t c d) : SameName t s d c := by
  obtain ⟨name,here,there⟩ := same
  exact ⟨name,there,here⟩

theorem sameType_symm {a b : Ty} (same : SameType s t a b) : SameType t s b a := by
  cases same with
  | primitive p => exact .primitive p
  | null => exact .null
  | object named => exact .object (sameName_symm named)

theorem sameTypes_symm {as bs : List Ty} (same : List.Forall₂ (SameType s t) as bs) :
    List.Forall₂ (SameType t s) bs as :=
  .flip (same.imp fun _ _ => sameType_symm)

theorem sameMethod_symm {m n : Method} (same : SameMethod s t m n) : SameMethod t s n m :=
  ⟨same.name.symm,sameTypes_symm same.params,sameType_symm same.returns⟩

theorem sameClass_symm {x y : ClassDecl} (same : SameClass s t x y) : SameClass t s y x :=
  ⟨same.name.symm,rel_turn (fun _ _ => sameName_symm) same.superclass,sameTypes_symm same.constructor,
    .flip (same.methods.imp fun _ _ => sameMethod_symm)⟩

theorem agrees_symm (agrees : Agrees s t) : Agrees t s := by
  refine ⟨sameName_symm agrees.object,?_⟩
  intro d c same
  obtain ⟨x,y,held,other,equal⟩ := agrees.classes c d (sameName_symm same)
  exact ⟨y,x,other,held,sameClass_symm equal⟩

end

/-! ### Names and types -/

section
variable {s t : ClassTable}

/-- A class has one name only, so at most one class corresponds to it. -/
theorem sameName_unique {c d e : ClassId} (first : SameName s t c d) (second : SameName s t c e) : d = e := by
  obtain ⟨name,here,there⟩ := first
  obtain ⟨other,again,elsewhere⟩ := second
  obtain ⟨x,held,rfl⟩ := find_held here
  obtain ⟨y,held_again,rfl⟩ := find_held again
  cases Option.some.inj (held.symm.trans held_again)
  exact Option.some.inj (there.symm.trans elsewhere)

/-- The types that a name stands for in each table are the same. -/
theorem sameType_of_resolve {name : String} {a b : Ty} (here : s.resolve? name = some a)
    (there : t.resolve? name = some b) : SameType s t a b := by
  unfold resolve? at here there
  cases keyword : Primitive.ofKeyword? name with
  | some p =>
    rw [keyword] at here there
    cases here
    cases there
    exact .primitive p
  | none =>
    rw [keyword] at here there
    by_cases null : name = "null"
    · simp only [null,if_true,Option.some.injEq] at here there
      subst here
      subst there
      exact .null
    · simp only [null,if_false,Option.map_eq_some_iff] at here there
      obtain ⟨c,found,rfl⟩ := here
      obtain ⟨d,found_there,rfl⟩ := there
      exact .object ⟨name,found,found_there⟩

end

/-! ### Subtyping -/

section
variable {s t : ClassTable}

theorem extends_agrees (agrees : Agrees s t) {c d parent : ClassId} (same : SameName s t c d)
    (link : s.Extends c parent) : ∃ above, t.Extends d above ∧ SameName s t parent above := by
  obtain ⟨x,y,held,other,equal⟩ := agrees.classes c d same
  obtain ⟨decl,again,recorded⟩ := link
  cases Option.some.inj (held.symm.trans again)
  obtain ⟨above,up,named⟩ := rel_some_left (recorded ▸ equal.superclass)
  exact ⟨above,⟨y,other,up⟩,named⟩

theorem reaches_agrees (agrees : Agrees s t) {c d up : ClassId} (same : SameName s t c d)
    (path : s.Reaches c up) : ∃ above, t.Reaches d above ∧ SameName s t up above := by
  induction path with
  | refl => exact ⟨d,.refl,same⟩
  | tail _ link ih =>
    obtain ⟨middle,before,named⟩ := ih
    obtain ⟨above,next,named_above⟩ := extends_agrees agrees named link
    exact ⟨above,before.tail next,named_above⟩

theorem below_agrees (agrees : Agrees s t) {low high low' high' : Ty} (lows : SameType s t low low')
    (highs : SameType s t high high') (below : s.Below low high) : t.Below low' high' := by
  cases below with
  | refl =>
    cases lows with
    | primitive => cases highs; exact .refl _
    | null => cases highs; exact .refl _
    | object named =>
      cases highs with
      | object again => exact sameName_unique named again ▸ .refl _
  | null c =>
    cases lows
    cases highs
    exact .null _
  | links path =>
    cases lows with
    | object named =>
      cases highs with
      | object named_high =>
        obtain ⟨above,there,named_above⟩ := reaches_agrees agrees named path
        exact sameName_unique named_above named_high ▸ .links there

/-- The subtype test answers the same for the same types. -/
theorem isSubtype_agrees (agrees : Agrees s t) {low high low' high' : Ty} (lows : SameType s t low low')
    (highs : SameType s t high high') : s.isSubtype low high = t.isSubtype low' high' := by
  rw [Bool.eq_iff_iff,isSubtype_iff,isSubtype_iff]
  exact ⟨below_agrees agrees lows highs,
    below_agrees (agrees_symm agrees) (sameType_symm lows) (sameType_symm highs)⟩

end

/-! ### Members -/

section
variable {s t : ClassTable}

private theorem find_sameMethod {ms ns : List Method} (same : List.Forall₂ (SameMethod s t) ms ns)
    (name : String) :
    Option.Rel (SameMethod s t) (ms.find? (·.name == name)) (ns.find? (·.name == name)) := by
  induction same with
  | nil => exact .none
  | cons first _ ih =>
    rw [List.find?_cons,List.find?_cons,← first.name]
    split
    · exact .some first
    · exact ih

theorem declares_agrees (agrees : Agrees s t) {c d : ClassId} (same : SameName s t c d) {name : String}
    {m : Method} (declared : s.Declares c name m) : ∃ n, t.Declares d name n ∧ SameMethod s t m n := by
  obtain ⟨x,y,held,other,equal⟩ := agrees.classes c d same
  rw [← declared_iff,declared?,held] at declared
  have found : x.methods.find? (·.name == name) = some m := declared
  obtain ⟨n,there,alike⟩ := rel_some_left (found ▸ find_sameMethod equal.methods name)
  refine ⟨n,?_,alike⟩
  rw [← declared_iff,declared?,other]
  exact there

theorem inherits_agrees (agrees : Agrees s t) {c d : ClassId} (same : SameName s t c d) {name : String}
    {m : Method} (inherited : s.Inherits name c m) : ∃ n, t.Inherits name d n ∧ SameMethod s t m n := by
  induction inherited generalizing d with
  | own declared =>
    obtain ⟨n,there,alike⟩ := declares_agrees agrees same declared
    exact ⟨n,.own there,alike⟩
  | @up c parent m nothing link _ ih =>
    -- A method on the other side would have its counterpart here.
    have nothing_there : ∀ other, ¬ t.Declares d name other := by
      intro other declared
      obtain ⟨counterpart,here,_⟩ := declares_agrees (agrees_symm agrees) (sameName_symm same) declared
      exact nothing counterpart here
    obtain ⟨above,next,named⟩ := extends_agrees agrees same link
    obtain ⟨n,there,alike⟩ := ih named
    exact ⟨n,.up nothing_there next there,alike⟩

theorem constructor_agrees (agrees : Agrees s t) {a b : Ty} (same : SameType s t a b) :
    Option.Rel (List.Forall₂ (SameType s t)) (s.constructor? a) (t.constructor? b) := by
  cases same with
  | primitive => exact .none
  | null => exact .none
  | @object c d named =>
    obtain ⟨x,y,held,other,equal⟩ := agrees.classes c d named
    simp only [constructor?,held,other]
    exact .some equal.constructor

end

end Nominal.ClassTable
