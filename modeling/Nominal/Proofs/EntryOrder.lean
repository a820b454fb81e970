import Nominal.Proofs.BuildFaults
import Nominal.Proofs.BuiltTable
import Nominal.Proofs.Correspondence

/-!
Building a table from entries in another order, or among more entries. What an entry says is read by name
alone, so its class comes out the same in every table that is built with it. Positions follow the order of
registration, and nothing but the positions does.
-/

namespace Nominal

namespace ClassTable

/-- The class of the given name. -/
def classNamed? (t : ClassTable) (name : String) : Option ClassDecl := (t.find? name).bind t.get?

/-- The subtype test on types given by their names; none if a name stands for no type. -/
def isSubtypeNamed? (t : ClassTable) (low high : String) : Option Bool := do
  let a ← t.resolve? low
  let b ← t.resolve? high
  return t.isSubtype a b

/-- The tables differ in the positions of their classes only. -/
structure Renumbered (s t : ClassTable) : Prop where
  object : SameName s t s.object t.object
  string : SameName s t s.string t.string
  classes : ∀ name, Option.Rel (SameClass s t) (s.classNamed? name) (t.classNamed? name)
  subtyping : ∀ low high, s.isSubtypeNamed? low high = t.isSubtypeNamed? low high

end ClassTable

namespace Config

/-! ### One entry in two tables -/

section
variable {s t : ClassTable}

theorem sameTypes_of_resolves {names : List String} {as bs : List Ty}
    (left : List.Forall₂ (Resolves s) names as) (right : List.Forall₂ (Resolves t) names bs) :
    List.Forall₂ (ClassTable.SameType s t) as bs := by
  refine forall₂_meet ?_ left right
  intro name a b here there
  exact ClassTable.sameType_of_resolve here there

theorem sameMethod_of_resolves {m : MethodEntry} {x y : Method} (left : MethodResolves s m x)
    (right : MethodResolves t m y) : ClassTable.SameMethod s t x y :=
  ⟨left.name.trans right.name.symm,sameTypes_of_resolves left.params right.params,
    ClassTable.sameType_of_resolve left.returns right.returns⟩

/-- An entry describes the same class in every table. -/
theorem sameClass_of_describes (object : ClassTable.SameName s t s.object t.object) {entry : ClassEntry}
    {x y : ClassDecl} (left : Describes s entry x) (right : Describes t entry y) :
    ClassTable.SameClass s t x y := by
  have methods : List.Forall₂ (ClassTable.SameMethod s t) x.methods y.methods := by
    refine forall₂_meet ?_ left.methods right.methods
    intro m x y here there
    exact sameMethod_of_resolves here there
  refine ⟨left.name.trans right.name.symm,?_,sameTypes_of_resolves left.constructor right.constructor,
    methods⟩
  obtain ⟨parent,recorded,extended⟩ := left.superclass
  obtain ⟨above,recorded_there,extended_there⟩ := right.superclass
  rw [recorded,recorded_there]
  cases given : entry.superclass with
  | none =>
    rw [given] at extended extended_there
    cases extended
    cases extended_there
    exact .some object
  | some name =>
    rw [given] at extended extended_there
    exact .some ⟨name,extended,extended_there⟩

/-- The built-in classes mention no other classes than themselves. -/
theorem sameClass_builtin
    (same : ∀ id d, ClassTable.builtin.get? id = some d → ClassTable.SameName s t id id)
    {id : ClassId} {d : ClassDecl} (held : ClassTable.builtin.get? id = some d) :
    ClassTable.SameClass s t d d := by
  have types : ∀ a ∈ d.signatureTypes, ClassTable.SameType s t a a := by
    intro a member
    have known := ClassTable.closed_builtin id d held a member
    cases a with
    | primitive p => exact .primitive p
    | null => exact .null
    | object place =>
      obtain ⟨decl,there⟩ := known
      exact .object (same place decl there)
  rw [ClassDecl.signatureTypes,List.forall_mem_append,List.forall_mem_flatMap] at types
  refine ⟨rfl,?_,List.forall₂_same.mpr types.1,List.forall₂_same.mpr ?_⟩
  · cases up : d.superclass with
    | none => exact .none
    | some parent =>
      have before := (ClassTable.wellFormed_builtin.proper id d held).upward parent up
      have inside : parent.index < ClassTable.builtin.classes.length :=
        Nat.lt_trans before (List.getElem?_eq_some_iff.mp held).1
      exact .some (same parent _ (List.getElem?_eq_getElem inside))
  · intro m member
    have mentioned := types.2 m member
    rw [List.forall_mem_append,List.forall_mem_singleton] at mentioned
    exact ⟨rfl,List.forall₂_same.mpr mentioned.1,mentioned.2⟩

end

/-- Tables built from entries of which one has all that the other has agree on their common classes. -/
theorem build_agrees {a b : Config} {s t : ClassTable} (inside : a.classes ⊆ b.classes)
    (here : a.build = .ok s) (there : b.build = .ok t) : ClassTable.Agrees s t := by
  have formed := ClassTable.grown_wellFormed (build_grown here)
  have formed_there := ClassTable.grown_wellFormed (build_grown there)
  have builtin (id : ClassId) (d : ClassDecl) (held : ClassTable.builtin.get? id = some d) :
      ClassTable.SameName s t id id :=
    ⟨d.name,(built_builtin here held).1,(built_builtin there held).1⟩
  have object : ClassTable.SameName s t s.object t.object := by
    rw [formed.object,formed_there.object]
    exact builtin ⟨0⟩ _ rfl
  refine ⟨object,?_⟩
  rintro c d ⟨name,found,found_there⟩
  obtain ⟨x,held,rfl⟩ := ClassTable.find_held found
  rcases built_origin here held with first | ⟨entry,member,named,described⟩
  · obtain ⟨again,kept⟩ := built_builtin there first
    cases Option.some.inj (found_there.symm.trans again)
    exact ⟨x,x,held,kept,sameClass_builtin builtin first⟩
  · obtain ⟨place,y,again,held_there,described_there⟩ := built_entry there (inside member)
    rw [named] at again
    cases Option.some.inj (found_there.symm.trans again)
    exact ⟨x,y,held,held_there,sameClass_of_describes object described described_there⟩

/-! ### Entries in another order -/

section
variable {entries others : List ClassEntry}

theorem orphan_perm (perm : entries.Perm others) {entry : ClassEntry} {err : BuildError}
    (orphan : Orphan entries entry err) : Orphan others entry err := by
  obtain ⟨given,undeclared,not_object,not_string⟩ := orphan
  exact .unknown given (fun declared => undeclared ((perm.map (·.name)).mem_iff.mpr declared)) not_object
    not_string

theorem noOrphan_perm (perm : entries.Perm others) (clean : NoFault (Orphan entries) entries) :
    NoFault (Orphan others) others := by
  intro entry member err orphan
  exact clean entry (perm.mem_iff.mpr member) err (orphan_perm perm.symm orphan)

theorem arrangement_perm (perm : entries.Perm others) {ordered : List ClassEntry}
    (arranged : Arrangement entries ordered) : Arrangement others ordered := by
  refine ⟨arranged.1.trans perm,?_⟩
  intro before entry after split name given declared
  exact arranged.2 before entry after split name given ((perm.map (·.name)).mem_iff.mpr declared)

theorem knownType_mono (inside : entries ⊆ others) {name : String} (known : KnownType entries name) :
    KnownType others name :=
  known.imp_right (.imp_right (.imp_right fun declared => List.map_subset _ inside declared))

/-- Faults do not depend on the order of the entries. -/
theorem wellFormed_perm (perm : entries.Perm others) (formed : WellFormed entries) : WellFormed others := by
  constructor
  case superclasses => exact noOrphan_perm perm formed.superclasses
  case arranged =>
    obtain ⟨ordered,arranged⟩ := formed.arranged
    exact ⟨ordered,arrangement_perm perm arranged⟩
  case unreserved => exact fun entry member => formed.unreserved entry (perm.mem_iff.mpr member)
  case distinct => exact ((perm.map (·.name)).append_left _).nodup_iff.mp formed.distinct
  case constructors =>
    intro entry member name inside
    exact knownType_mono perm.subset (formed.constructors entry (perm.mem_iff.mpr member) name inside)
  case signatures =>
    intro entry member m method name inside
    exact knownType_mono perm.subset (formed.signatures entry (perm.mem_iff.mpr member) m method name inside)
  case methods => exact fun entry member => formed.methods entry (perm.mem_iff.mpr member)

end

private theorem rel_of_isSome {α β : Type} {R : α → β → Prop} {x : Option α} {y : Option β}
    (defined : x.isSome ↔ y.isSome) (related : ∀ a b, x = some a → y = some b → R a b) : Option.Rel R x y := by
  cases x with
  | none =>
    cases y with
    | none => exact .none
    | some b => simp at defined
  | some a =>
    cases y with
    | none => simp at defined
    | some b => exact .some (related a b rfl rfl)

section
variable {a b : Config} {s t : ClassTable}

theorem build_exists_perm (perm : a.classes.Perm b.classes) :
    (∃ s, a.build = .ok s) ↔ ∃ t, b.build = .ok t := by
  unfold build
  rw [buildTable_exists_iff,buildTable_exists_iff]
  exact ⟨wellFormed_perm perm,wellFormed_perm perm.symm⟩

theorem built_knows (built : a.build = .ok s) : Knows a.classes s := by
  intro name
  rw [ClassTable.resolve_isSome_iff,built_names built,KnownType]
  simp [ClassTable.names,ClassTable.builtin,or_assoc]

theorem names_perm (perm : a.classes.Perm b.classes) (here : a.build = .ok s) (there : b.build = .ok t)
    (name : String) : name ∈ s.names ↔ name ∈ t.names := by
  rw [built_names here,built_names there,(perm.map (·.name)).mem_iff]

theorem classNamed_agrees (agrees : ClassTable.Agrees s t) {name : String}
    (known : name ∈ s.names ↔ name ∈ t.names) :
    Option.Rel (ClassTable.SameClass s t) (s.classNamed? name) (t.classNamed? name) := by
  rw [← ClassTable.find_isSome_iff,← ClassTable.find_isSome_iff] at known
  have found : Option.Rel (ClassTable.SameName s t) (s.find? name) (t.find? name) :=
    rel_of_isSome known fun c d here there => ⟨name,here,there⟩
  unfold ClassTable.classNamed?
  generalize s.find? name = x at found ⊢
  generalize t.find? name = y at found ⊢
  cases found with
  | none => exact .none
  | some same =>
    obtain ⟨x,y,held,held_there,equal⟩ := agrees.classes _ _ same
    simp only [Option.bind_some,held,held_there]
    exact .some equal

theorem resolve_agrees {name : String} (known : name ∈ s.names ↔ name ∈ t.names) :
    Option.Rel (ClassTable.SameType s t) (s.resolve? name) (t.resolve? name) := by
  have defined : (s.resolve? name).isSome ↔ (t.resolve? name).isSome := by
    rw [ClassTable.resolve_isSome_iff,ClassTable.resolve_isSome_iff,known]
  exact rel_of_isSome defined fun a b here there => ClassTable.sameType_of_resolve here there

theorem isSubtypeNamed_agrees (agrees : ClassTable.Agrees s t)
    (known : ∀ name, name ∈ s.names ↔ name ∈ t.names) (low high : String) :
    s.isSubtypeNamed? low high = t.isSubtypeNamed? low high := by
  have lows := resolve_agrees (known low)
  have highs := resolve_agrees (known high)
  unfold ClassTable.isSubtypeNamed?
  generalize s.resolve? low = a at lows ⊢
  generalize t.resolve? low = a' at lows ⊢
  generalize s.resolve? high = b at highs ⊢
  generalize t.resolve? high = b' at highs ⊢
  cases lows with
  | none => rfl
  | some same =>
    cases highs with
    | none => rfl
    | some other => exact congrArg some (ClassTable.isSubtype_agrees agrees same other)

/-- The order of the entries does not matter: they build in one order exactly when they build in any
    other, and then the tables differ in the positions of their classes only. -/
theorem build_reordered (perm : a.classes.Perm b.classes) :
    ((∃ s, a.build = .ok s) ↔ ∃ t, b.build = .ok t) ∧
      ∀ s t, a.build = .ok s → b.build = .ok t → s.Renumbered t := by
  refine ⟨build_exists_perm perm,?_⟩
  intro s t here there
  have agrees := build_agrees perm.subset here there
  have known := names_perm perm here there
  have formed := ClassTable.grown_wellFormed (build_grown here)
  have formed_there := ClassTable.grown_wellFormed (build_grown there)
  refine ⟨agrees.object,?_,fun name => classNamed_agrees agrees (known name),
    isSubtypeNamed_agrees agrees known⟩
  rw [formed.string,formed_there.string]
  exact ⟨_,(built_builtin here rfl).1,(built_builtin there rfl).1⟩

end

/-- Two classes that name each other, and their superclass after them. -/
def siblings : Config :=
  { classes :=
      [{ name := "Dog"
         superclass := some "Animal"
         methods := [{ name := "chase", params := ["Cat"], returns := "Dog" }] },
       { name := "Cat", superclass := some "Animal", constructor := [" Dog ","int"] },
       { name := "Animal" }] }

/-- The same from the last entry to the first. -/
def siblingsReversed : Config := { classes := siblings.classes.reverse }

theorem siblings_reordered :
    ∃ s t, siblings.build = .ok s ∧ siblingsReversed.build = .ok t ∧ s.find? "Dog" ≠ t.find? "Dog" ∧
      s.Renumbered t := by
  have perm : siblings.classes.Perm siblingsReversed.classes := (List.reverse_perm _).symm
  have differ : (siblings.build.toOption.bind (·.find? "Dog")) ≠
      siblingsReversed.build.toOption.bind (·.find? "Dog") := by decide +kernel
  have succeeds : siblings.build.toBool = true := by decide +kernel
  cases here : siblings.build with
  | error e => rw [here] at succeeds; cases succeeds
  | ok s =>
    obtain ⟨t,there⟩ := (build_reordered perm).1.mp ⟨s,here⟩
    rw [here,there] at differ
    exact ⟨s,t,rfl,there,differ,(build_reordered perm).2 s t here there⟩

end Config

end Nominal
