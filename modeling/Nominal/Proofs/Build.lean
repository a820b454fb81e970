import Nominal.Proofs.InheritanceOrder
import Nominal.Proofs.Registration

/-!
The table that the entries of a configuration build. Classes are registered in an order of inheritance
and members are added in the order of the entries, but of these orders only the positions of the classes
show: each entry has one class, with the superclass it names and with its members resolved in the
finished table.
-/

namespace Nominal.Config

/-- White space at its ends aside, the name stands for the type in the table. -/
def Resolves (t : ClassTable) (name : String) (type : Ty) : Prop :=
  t.resolve? (Text.trim name) = some type

/-- The method is that of the entry, with its types resolved in the table. -/
structure MethodResolves (t : ClassTable) (m : MethodEntry) (method : Method) : Prop where
  name : method.name = m.name
  params : List.Forall₂ (Resolves t) m.params method.params
  returns : Resolves t m.returns method.returns

/-- The class that an entry extends: the one of the given name, or the root class if no name is given. -/
def ExtendsNamed (t : ClassTable) : Option String → ClassId → Prop
  | none, parent => parent = t.object
  | some name, parent => t.find? name = some parent

/-- The declaration is that of the entry, with every name in it resolved in the table. -/
structure Describes (t : ClassTable) (entry : ClassEntry) (d : ClassDecl) : Prop where
  name : d.name = entry.name
  superclass : ∃ parent, d.superclass = some parent ∧ ExtendsNamed t entry.superclass parent
  /-- The root class does not stand in for another superclass. -/
  root : d.superclass = some t.object → entry.superclass = none ∨ entry.superclass = some "Object"
  constructor : List.Forall₂ (Resolves t) entry.constructor d.constructor
  methods : List.Forall₂ (MethodResolves t) entry.methods d.methods

/-! ### Registration -/

/-- The superclass that an entry gets when it is registered. -/
def superclassOf (t : ClassTable) (entry : ClassEntry) : ClassId :=
  (entry.superclass.bind t.find?).getD t.object

/-- The class of an entry before its members are added. -/
def declaration (t : ClassTable) (entry : ClassEntry) : ClassDecl :=
  ⟨entry.name,some (superclassOf t entry),[],[]⟩

/-- The table with the class of an entry behind. -/
def register (t : ClassTable) (entry : ClassEntry) : ClassTable :=
  { t with classes := t.classes ++ [declaration t entry] }

/-- The table holds the built-in classes and behind them those of the entries, in order. Superclasses
    are those found in this very table, although classes were registered one after another. -/
structure Registered (t : ClassTable) (done : List ClassEntry) : Prop where
  object : t.object = ClassTable.builtin.object
  string : t.string = ClassTable.builtin.string
  classes : t.classes = ClassTable.builtin.classes ++ done.map (declaration t)
  linked : ∀ entry ∈ done, ∀ name, entry.superclass = some name → name ∈ t.names
  distinct : t.names.Nodup

section
variable {t : ClassTable} {done : List ClassEntry} {entry : ClassEntry}

theorem registered_builtin : Registered ClassTable.builtin [] :=
  ⟨rfl,rfl,by simp,by simp,by decide⟩

theorem registered_names (registered : Registered t done) :
    t.names = ["Object","String"] ++ done.map (·.name) := by
  rw [ClassTable.names,registered.classes,List.map_append,List.map_map]
  rfl

/-- Whatever the superclass, the class taken for it is held by the table. -/
theorem superclassOf_held (registered : Registered t done) (entry : ClassEntry) :
    ∃ d, t.get? (superclassOf t entry) = some d := by
  have root : ∃ d, t.get? t.object = some d := by
    rw [registered.object,ClassTable.get?,registered.classes]
    exact ⟨_,rfl⟩
  unfold superclassOf
  cases found : entry.superclass.bind t.find? with
  | none => exact root
  | some parent =>
    obtain ⟨name,_,here⟩ := Option.bind_eq_some_iff.mp found
    obtain ⟨d,held,_⟩ := ClassTable.find_held here
    exact ⟨d,held⟩

/-- Registration looks at the name alone: it is reserved, taken or free. -/
theorem registerEntry_eq (registered : Registered t done) (entry : ClassEntry) :
    registerEntry t entry =
      if isReserved entry.name then .error (.registration (.reservedName entry.name))
      else if entry.name ∈ t.names then .error (.registration (.duplicateClass entry.name))
      else .ok (register t entry) := by
  obtain ⟨d,held⟩ := superclassOf_held registered entry
  rw [registerEntry,ClassTable.addClass_eq held]
  by_cases reserved : isReserved entry.name
  · simp [reserved]
  · by_cases taken : entry.name ∈ t.names
    · simp [reserved,taken]
    · simp [reserved,taken,register,declaration,superclassOf]

theorem names_register (t : ClassTable) (entry : ClassEntry) :
    (register t entry).names = t.names ++ [entry.name] := by
  simp [ClassTable.names,register,declaration]

/-- The superclass of an entry is found where it was when more classes are added. -/
theorem superclassOf_register (linked : ∀ name, entry.superclass = some name → name ∈ t.names)
    (next : ClassEntry) : superclassOf (register t next) entry = superclassOf t entry := by
  unfold superclassOf
  cases given : entry.superclass with
  | none => rfl
  | some name =>
    obtain ⟨parent,found⟩ := Option.isSome_iff_exists.mp ((t.find_isSome_iff name).mpr (linked name given))
    have still : (register t next).find? name = some parent :=
      ClassTable.find_append found [declaration t next]
    simp [found,still]

/-- One step of registration. -/
theorem registered_step (registered : Registered t done) (fresh : entry.name ∉ t.names)
    (linked : ∀ name, entry.superclass = some name → name ∈ t.names) :
    Registered (register t entry) (done ++ [entry]) := by
  have all_linked : ∀ other ∈ done ++ [entry], ∀ name, other.superclass = some name → name ∈ t.names := by
    intro other member
    rcases List.mem_append.mp member with earlier | last
    · exact registered.linked other earlier
    · exact List.mem_singleton.mp last ▸ linked
  refine ⟨registered.object,registered.string,?_,?_,?_⟩
  · have same : (done ++ [entry]).map (declaration (register t entry)) =
        (done ++ [entry]).map (declaration t) := by
      apply List.map_congr_left
      intro other member
      rw [declaration,superclassOf_register (all_linked other member),declaration]
    rw [same,List.map_append,← List.append_assoc,← registered.classes]
    rfl
  · intro other member name given
    rw [names_register]
    exact List.mem_append_left _ (all_linked other member name given)
  · rw [names_register,List.nodup_append]
    refine ⟨registered.distinct,by simp,?_⟩
    intro name member other last
    rw [List.mem_singleton.mp last]
    exact fun same => fresh (same ▸ member)

end

/-- A run of registration under way: the entries that follow each come after their superclass. -/
structure Registering (declared placed : List String) (t : ClassTable) (done rest : List ClassEntry) :
    Prop where
  registered : Registered t done
  within : placed ⊆ t.names
  sequenced : Sequenced declared placed rest
  known : ∀ entry ∈ rest, ∀ name, entry.superclass = some name → name ∈ declared ∨ name ∈ t.names

section
variable {declared placed : List String} {t next final : ClassTable} {done rest : List ClassEntry}
  {entry : ClassEntry}

theorem registering_step (run : Registering declared placed t done (entry :: rest))
    (added : registerEntry t entry = .ok next) :
    Registering declared (entry.name :: placed) next (done ++ [entry]) rest := by
  obtain ⟨ready,later⟩ := run.sequenced
  rw [registerEntry_eq run.registered] at added
  split at added
  · cases added
  · split at added
    · cases added
    · rename_i fresh
      cases added
      have linked : ∀ name, entry.superclass = some name → name ∈ t.names := by
        intro name given
        rcases run.known entry List.mem_cons_self name given with inside | there
        · exact run.within (ready name given inside)
        · exact there
      refine ⟨registered_step run.registered fresh linked,?_,later,?_⟩
      · intro name member
        rw [names_register,List.mem_append,List.mem_singleton]
        rcases List.mem_cons.mp member with rfl | earlier
        · exact .inr rfl
        · exact .inl (run.within earlier)
      · intro other member name given
        rw [names_register]
        exact (run.known other (List.mem_cons_of_mem _ member) name given).imp_right
          (List.mem_append_left _)

theorem register_ok (run : Registering declared placed t done rest)
    (finished : rest.foldlM registerEntry t = .ok final) : Registered final (done ++ rest) := by
  induction rest generalizing t done placed with
  | nil =>
    cases finished
    rw [List.append_nil]
    exact run.registered
  | cons entry rest ih =>
    rw [List.foldlM_cons,bind_ok_iff] at finished
    obtain ⟨next,first,others⟩ := finished
    rw [← List.singleton_append,← List.append_assoc]
    exact ih (registering_step run first) others

end

/-! ### Members -/

section
variable {t final : ClassTable} {c : ClassId} {d : ClassDecl}

theorem resolveType_ok_iff (t : ClassTable) (context : Context) (name : String) (type : Ty) :
    resolveType t context name = .ok type ↔ Resolves t name type := by
  unfold resolveType Resolves
  cases t.resolve? (Text.trim name) with
  | none => simp
  | some found => simp

theorem resolveTypes_ok_iff (t : ClassTable) (context : Context) (names : List String) (types : List Ty) :
    names.mapM (resolveType t context) = .ok types ↔ List.Forall₂ (Resolves t) names types := by
  simp only [mapM_ok_iff,resolveType_ok_iff]

theorem resolves_congr {s : ClassTable} (same : s.names = t.names) : Resolves s = Resolves t := by
  funext name type
  rw [Resolves,Resolves,ClassTable.resolve_congr same]

theorem methodResolves_congr {s : ClassTable} (same : s.names = t.names) :
    MethodResolves s = MethodResolves t := by
  have carry : ∀ {one other : ClassTable}, Resolves one = Resolves other → ∀ m method,
      MethodResolves one m method → MethodResolves other m method := by
    rintro one other agree m method ⟨name,params,returns⟩
    rw [agree] at params returns
    exact ⟨name,params,returns⟩
  have agree := resolves_congr same
  funext m method
  exact propext ⟨carry agree m method,carry agree.symm m method⟩

theorem addMethodEntry_ok (held : t.get? c = some d) {owner : String} {m : MethodEntry}
    (added : addMethodEntry owner c t m = .ok final) :
    ∃ method, MethodResolves t m method ∧
      final = t.put c { d with methods := d.methods ++ [method] } := by
  simp only [addMethodEntry,bind_ok_iff,resolveTypes_ok_iff,resolveType_ok_iff] at added
  obtain ⟨params,params_resolved,returns,returns_resolved,done⟩ := added
  refine ⟨⟨m.name,params,returns⟩,⟨rfl,params_resolved,returns_resolved⟩,?_⟩
  rw [ClassTable.addMethod_eq held] at done
  by_cases taken : m.name ∈ d.methods.map (·.name)
  · rw [if_pos taken] at done
    cases done
  · rw [if_neg taken] at done
    exact (Except.ok.inj done).symm

/-- A run over the methods of an entry adds them behind, with their types resolved. -/
theorem addMethods_ok (held : t.get? c = some d) {owner : String} {ms : List MethodEntry}
    (run : ms.foldlM (addMethodEntry owner c) t = .ok final) :
    ∃ methods, List.Forall₂ (MethodResolves t) ms methods ∧
      final = t.put c { d with methods := d.methods ++ methods } := by
  induction ms generalizing t d with
  | nil =>
    cases run
    refine ⟨[],.nil,?_⟩
    rw [List.append_nil]
    exact (ClassTable.put_get held).symm
  | cons m ms ih =>
    rw [List.foldlM_cons,bind_ok_iff] at run
    obtain ⟨next,first,others⟩ := run
    obtain ⟨method,resolved,rfl⟩ := addMethodEntry_ok held first
    have same : (t.put c { d with methods := d.methods ++ [method] }).names = t.names :=
      ClassTable.names_put held rfl
    obtain ⟨methods,later,rfl⟩ := ih (ClassTable.get_put_self held _) others
    rw [methodResolves_congr same] at later
    refine ⟨method :: methods,.cons resolved later,?_⟩
    rw [ClassTable.put_put,List.append_assoc,List.singleton_append]

/-- The members of an entry go to the class of its name, and nothing else changes. -/
theorem addMembers_ok {entry : ClassEntry} (found : t.find? entry.name = some c) (held : t.get? c = some d)
    (added : addMembers t entry = .ok final) :
    ∃ params methods, List.Forall₂ (Resolves t) entry.constructor params ∧
      List.Forall₂ (MethodResolves t) entry.methods methods ∧
      final = t.put c { d with constructor := params, methods := d.methods ++ methods } := by
  simp only [addMembers,addMembersAt,found,bind_ok_iff,resolveTypes_ok_iff,ClassTable.setConstructor,held] at added
  obtain ⟨params,params_resolved,run⟩ := added
  have same : (t.put c { d with constructor := params }).names = t.names := ClassTable.names_put held rfl
  obtain ⟨methods,resolved,rfl⟩ := addMethods_ok (ClassTable.get_put_self held _) run
  rw [methodResolves_congr same] at resolved
  exact ⟨params,methods,params_resolved,resolved,by rw [ClassTable.put_put]⟩

end

/-- The second table is the first one, with the members of the given entries added to their classes. -/
structure Filled (base t : ClassTable) (done : List ClassEntry) : Prop where
  object : t.object = base.object
  string : t.string = base.string
  names : t.names = base.names
  others : ∀ c, (∀ entry ∈ done, base.find? entry.name ≠ some c) → t.get? c = base.get? c
  members : ∀ entry ∈ done, ∀ c d, base.find? entry.name = some c → base.get? c = some d →
    ∃ params methods, List.Forall₂ (Resolves base) entry.constructor params ∧
      List.Forall₂ (MethodResolves base) entry.methods methods ∧
      t.get? c = some { d with constructor := params, methods := d.methods ++ methods }

section
variable {base t final : ClassTable} {done : List ClassEntry}

theorem filled_start (base : ClassTable) : Filled base base [] :=
  ⟨rfl,rfl,rfl,fun _ _ => rfl,by simp⟩

/-- One step of the member pass. The entry has a class of its own, which the steps before it left as it
    was registered. -/
theorem filled_step {entry : ClassEntry} {c : ClassId} (filled : Filled base t done)
    (found : base.find? entry.name = some c) (own : ∀ other ∈ done, base.find? other.name ≠ some c)
    (added : addMembers t entry = .ok final) : Filled base final (done ++ [entry]) := by
  obtain ⟨d,base_held,_⟩ := ClassTable.find_held found
  have held : t.get? c = some d := (filled.others c own).trans base_held
  have found_now : t.find? entry.name = some c := (ClassTable.find_congr filled.names _).trans found
  obtain ⟨params,methods,params_resolved,resolved,rfl⟩ := addMembers_ok found_now held added
  rw [resolves_congr filled.names] at params_resolved
  rw [methodResolves_congr filled.names] at resolved
  have names : (t.put c { d with constructor := params, methods := d.methods ++ methods }).names =
      t.names := ClassTable.names_put held rfl
  refine ⟨filled.object,filled.string,names.trans filled.names,?_,?_⟩
  · intro e untouched
    have different : e ≠ c := by
      rintro rfl
      exact untouched entry (by simp) found
    rw [ClassTable.get_put_other different]
    exact filled.others e fun other member => untouched other (List.mem_append_left _ member)
  · intro other member e decl other_found other_held
    rcases List.mem_append.mp member with earlier | last
    · have different : e ≠ c := by
        rintro rfl
        exact own other earlier other_found
      rw [ClassTable.get_put_other different]
      exact filled.members other earlier e decl other_found other_held
    · cases List.mem_singleton.mp last
      cases Option.some.inj (found.symm.trans other_found)
      cases Option.some.inj (base_held.symm.trans other_held)
      exact ⟨params,methods,params_resolved,resolved,ClassTable.get_put_self held _⟩

end

/-- The member pass under way: the entries have different names, and each has a class. -/
structure Filling (base t : ClassTable) (done rest : List ClassEntry) : Prop where
  filled : Filled base t done
  distinct : ((done ++ rest).map (·.name)).Nodup
  known : ∀ entry ∈ rest, entry.name ∈ base.names

section
variable {base t next final : ClassTable} {done rest : List ClassEntry} {entry : ClassEntry}

/-- The class of the next entry is not that of an entry before it. -/
theorem filling_own (run : Filling base t done (entry :: rest)) :
    ∃ c, base.find? entry.name = some c ∧ ∀ other ∈ done, base.find? other.name ≠ some c := by
  obtain ⟨c,found⟩ := Option.isSome_iff_exists.mp
    ((base.find_isSome_iff entry.name).mpr (run.known entry List.mem_cons_self))
  refine ⟨c,found,?_⟩
  intro other member other_found
  obtain ⟨d,held,named⟩ := ClassTable.find_held found
  obtain ⟨decl,again,other_named⟩ := ClassTable.find_held other_found
  cases Option.some.inj (held.symm.trans again)
  have distinct := run.distinct
  rw [List.map_append,List.nodup_append] at distinct
  exact distinct.2.2 other.name (List.mem_map_of_mem member) entry.name (by simp)
    (other_named.symm.trans named)

theorem filling_step (run : Filling base t done (entry :: rest)) (added : addMembers t entry = .ok next) :
    Filling base next (done ++ [entry]) rest := by
  obtain ⟨c,found,own⟩ := filling_own run
  refine ⟨filled_step run.filled found own added,?_,?_⟩
  · rw [List.append_assoc,List.singleton_append]
    exact run.distinct
  · exact fun other member => run.known other (List.mem_cons_of_mem _ member)

theorem fill_ok (run : Filling base t done rest) (finished : rest.foldlM addMembers t = .ok final) :
    Filled base final (done ++ rest) := by
  induction rest generalizing t done with
  | nil =>
    cases finished
    rw [List.append_nil]
    exact run.filled
  | cons entry rest ih =>
    rw [List.foldlM_cons,bind_ok_iff] at finished
    obtain ⟨next,first,others⟩ := finished
    rw [← List.singleton_append,← List.append_assoc]
    exact ih (filling_step run first) others

end

/-! ### The whole table -/

theorem noOrphan_known {entries : List ClassEntry} (clean : NoFault (Orphan entries) entries)
    (entry : ClassEntry) (member : entry ∈ entries) (name : String) (given : entry.superclass = some name) :
    name ∈ entries.map (·.name) ∨ name ∈ ClassTable.builtin.names := by
  by_contra unknown
  push Not at unknown
  have outside : name ≠ "Object" ∧ name ≠ "String" := by
    simpa [ClassTable.names,ClassTable.builtin] using unknown.2
  exact clean entry member _ (.unknown given unknown.1 outside.1 outside.2)

/-- Registration starts from the built-in classes, in the order that was found. -/
theorem registering_start {entries ordered : List ClassEntry} (found : inheritanceOrder entries = .ok ordered) :
    Registering (entries.map (·.name)) [] ClassTable.builtin [] ordered := by
  obtain ⟨clean,arranged⟩ := inheritanceOrder_ok found
  obtain ⟨perm,sequenced⟩ := (arrangement_iff entries ordered).mp arranged
  exact ⟨registered_builtin,List.nil_subset _,sequenced,
    fun entry member => noOrphan_known clean entry (perm.subset member)⟩

section
variable {entries ordered : List ClassEntry} {base t : ClassTable}

/-- The member pass starts from the registered classes. -/
theorem filling_start (registered : Registered base ordered) (perm : ordered.Perm entries) :
    Filling base base [] entries := by
  have distinct := registered.distinct
  rw [registered_names registered,List.nodup_append] at distinct
  refine ⟨filled_start base,(perm.map _).nodup_iff.mp distinct.2.1,?_⟩
  intro entry member
  rw [registered_names registered]
  exact List.mem_append_right _ (List.mem_map_of_mem (perm.mem_iff.mpr member))

/-- The stages of a build that succeeds. -/
theorem build_stages (built : buildTable entries = .ok t) :
    ∃ ordered base, ordered.Perm entries ∧ Registered base ordered ∧ Filled base t entries := by
  simp only [buildTable,bind_ok_iff] at built
  obtain ⟨ordered,found,base,registering,filling⟩ := built
  have perm := (inheritanceOrder_ok found).2.1
  have registered := register_ok (registering_start found) registering
  exact ⟨ordered,base,perm,registered,fill_ok (filling_start registered perm) filling⟩

/-- Every entry has the class that it was registered with. -/
theorem entry_registered (registered : Registered base ordered) {entry : ClassEntry}
    (member : entry ∈ ordered) :
    ∃ id, base.find? entry.name = some id ∧ base.get? id = some (declaration base entry) := by
  have inside : declaration base entry ∈ base.classes := by
    rw [registered.classes]
    exact List.mem_append_right _ (List.mem_map_of_mem member)
  obtain ⟨index,held⟩ := List.getElem?_of_mem inside
  have here : base.get? ⟨index⟩ = some (declaration base entry) := held
  exact ⟨⟨index⟩,ClassTable.find_of_get registered.distinct here,here⟩

/-- A class of the registered table is a built-in one or that of an entry. -/
theorem registered_held (registered : Registered base ordered) {id : ClassId} {d : ClassDecl}
    (held : base.get? id = some d) :
    (id = ⟨0⟩ ∨ id = ⟨1⟩) ∨ ∃ entry ∈ ordered, base.find? entry.name = some id := by
  have found := ClassTable.find_of_get registered.distinct held
  by_cases builtin : id.index < 2
  · left
    obtain ⟨index⟩ := id
    have small : index = 0 ∨ index = 1 := by change index < 2 at builtin; omega
    exact small.imp (congrArg ClassId.mk) (congrArg ClassId.mk)
  · right
    change base.classes[id.index]? = some d at held
    rw [registered.classes,List.getElem?_append_right (Nat.le_of_not_lt builtin)] at held
    obtain ⟨entry,member,rfl⟩ := List.mem_map.mp (List.mem_of_getElem? held)
    exact ⟨entry,member,found⟩

/-- The built-in classes are left alone. -/
theorem builtin_kept (registered : Registered base ordered) (perm : ordered.Perm entries)
    (filled : Filled base t entries) {id : ClassId} {d : ClassDecl}
    (held : ClassTable.builtin.get? id = some d) : t.get? id = some d := by
  have inside : id.index < ClassTable.builtin.classes.length := (List.getElem?_eq_some_iff.mp held).1
  have base_held : base.get? id = some d := by
    change base.classes[id.index]? = some d
    rw [registered.classes,List.getElem?_append_left inside]
    exact held
  refine (filled.others id ?_).trans base_held
  intro entry member found
  obtain ⟨decl,again,named⟩ := ClassTable.find_held found
  cases Option.some.inj (base_held.symm.trans again)
  have distinct := registered.distinct
  rw [registered_names registered,List.nodup_append] at distinct
  have builtin_name : d.name ∈ ["Object","String"] :=
    List.mem_of_getElem? (ClassTable.names_get held)
  exact distinct.2.2 d.name builtin_name entry.name
    (List.mem_map_of_mem (perm.mem_iff.mpr member)) named

/-- The class of an entry extends the class that the entry names. -/
theorem superclassOf_extends (registered : Registered base ordered) {entry : ClassEntry}
    (member : entry ∈ ordered) : ExtendsNamed base entry.superclass (superclassOf base entry) := by
  unfold superclassOf
  cases given : entry.superclass with
  | none => rfl
  | some name =>
    obtain ⟨parent,found⟩ := Option.isSome_iff_exists.mp
      ((base.find_isSome_iff name).mpr (registered.linked entry member name given))
    simp [ExtendsNamed,found]

/-- Only the root class is found by its own name at its position. -/
theorem root_named (registered : Registered base ordered) {name : String}
    (found : base.find? name = some base.object) : name = "Object" := by
  obtain ⟨d,held,rfl⟩ := ClassTable.find_held found
  rw [registered.object,ClassTable.get?,registered.classes] at held
  cases held
  rfl

theorem entry_described (registered : Registered base ordered) (perm : ordered.Perm entries)
    (filled : Filled base t entries) (entry : ClassEntry) (member : entry ∈ entries) :
    ∃ id d, t.find? entry.name = some id ∧ t.get? id = some d ∧ Describes t entry d := by
  have placed := perm.mem_iff.mpr member
  obtain ⟨id,found,held⟩ := entry_registered registered placed
  obtain ⟨params,methods,params_resolved,resolved,now⟩ := filled.members entry member id _ found held
  have extended := superclassOf_extends registered placed
  refine ⟨id,_,(ClassTable.find_congr filled.names _).trans found,now,rfl,?_,?_,?_,?_⟩
  · refine ⟨superclassOf base entry,rfl,?_⟩
    cases given : entry.superclass with
    | none =>
      rw [given] at extended
      exact extended.trans filled.object.symm
    | some name =>
      rw [given] at extended
      exact (ClassTable.find_congr filled.names name).trans extended
  · intro at_root
    cases given : entry.superclass with
    | none => exact .inl rfl
    | some name =>
      rw [given] at extended
      have same : superclassOf base entry = base.object := (Option.some.inj at_root).trans filled.object
      exact .inr (congrArg some (root_named registered (extended.trans (congrArg some same))))
  · rw [resolves_congr filled.names]
    exact params_resolved
  · rw [methodResolves_congr filled.names]
    exact resolved

end

/-- The table holds the built-in classes, unchanged, one class for each entry, and no other. -/
structure Faithful (entries : List ClassEntry) (t : ClassTable) : Prop where
  count : t.classes.length = 2 + entries.length
  object : t.object = ⟨0⟩ ∧ t.get? ⟨0⟩ = ClassTable.builtin.get? ⟨0⟩
  string : t.string = ⟨1⟩ ∧ t.get? ⟨1⟩ = ClassTable.builtin.get? ⟨1⟩
  described : ∀ entry ∈ entries, ∃ id d, t.find? entry.name = some id ∧ t.get? id = some d ∧
    Describes t entry d
  nothing_else : ∀ id d, t.get? id = some d →
    (id = ⟨0⟩ ∨ id = ⟨1⟩) ∨ ∃ entry ∈ entries, t.find? entry.name = some id

/-- A configuration that builds gives the table that its entries describe, in whatever order they come. -/
theorem build_faithful (c : Config) (t : ClassTable) (built : c.build = .ok t) : Faithful c.classes t := by
  obtain ⟨ordered,base,perm,registered,filled⟩ := build_stages built
  refine ⟨?_,⟨filled.object.trans registered.object,?_⟩,⟨filled.string.trans registered.string,?_⟩,?_,?_⟩
  · have names := congrArg List.length (filled.names.trans (registered_names registered))
    simp only [ClassTable.names,List.length_map,List.length_append,List.length_cons,List.length_nil] at names
    rw [names,perm.length_eq]
  · exact builtin_kept registered perm filled rfl
  · exact builtin_kept registered perm filled rfl
  · exact entry_described registered perm filled
  · intro id d held
    have named : base.names[id.index]? = some d.name := filled.names ▸ ClassTable.names_get held
    obtain ⟨decl,base_held,_⟩ := Option.map_eq_some_iff.mp ((List.getElem?_map ..).symm.trans named)
    refine (registered_held registered (show base.get? id = some decl from base_held)).imp_right ?_
    rintro ⟨entry,member,found⟩
    exact ⟨entry,perm.mem_iff.mp member,(ClassTable.find_congr filled.names _).trans found⟩

/-- A class declared before its superclass, with signatures that name either of them. -/
def forwardReference : Config :=
  { classes :=
      [{ name := "Dog"
         superclass := some "Animal"
         methods := [{ name := "fetch", params := [" Animal "], returns := "Dog" }] },
       { name := "Animal", constructor := ["String","Dog"] }] }

theorem forwardReference_faithful :
    ∃ t, forwardReference.build = .ok t ∧ Faithful forwardReference.classes t := by
  have succeeds : forwardReference.build.toBool = true := by decide +kernel
  cases built : forwardReference.build with
  | error e => rw [built] at succeeds; cases succeeds
  | ok t => exact ⟨t,rfl,build_faithful forwardReference t built⟩

end Nominal.Config
