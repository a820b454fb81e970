import Mathlib.Data.List.Nodup
import Nominal.Proofs.Build

/-!
Which fault a class table is refused for. Four passes look for faults, each in an order of its own: the
entries for unknown superclasses, the entries for an arrangement, the arranged entries for their names,
and again the entries for their members. A pass is reached only when those before it found nothing, and
the first fault of that pass is reported; a table without faults is built.
-/

namespace Nominal.Config

/-- Each member of a list, together with those before it. -/
def withPrior {α : Type} : (prior : List α) → List α → List (List α × α)
  | _, [] => []
  | prior, x :: rest => (prior,x) :: withPrior (prior ++ [x]) rest

/-- The name of an entry cannot be registered after the entries before it: it is a reserved word, or it
    is taken by a built-in class or by one of those entries. -/
inductive NameFault : List ClassEntry × ClassEntry → BuildError → Prop
  | reserved {prior : List ClassEntry} {entry : ClassEntry} : isReserved entry.name →
      NameFault (prior,entry) (.registration (.reservedName entry.name))
  | duplicate {prior : List ClassEntry} {entry : ClassEntry} : ¬ isReserved entry.name →
      (entry.name = "Object" ∨ entry.name = "String" ∨ entry.name ∈ prior.map (·.name)) →
      NameFault (prior,entry) (.registration (.duplicateClass entry.name))

/-- The names that stand for a type once all entries are registered. -/
def KnownType (entries : List ClassEntry) (name : String) : Prop :=
  isReserved name ∨ name = "Object" ∨ name = "String" ∨ name ∈ entries.map (·.name)

/-- What the members of an entry ask for: that a name in a signature stands for a type, and that a
    method's name is not among those of the methods before it. -/
inductive Demand where
  | known (context : Context) (name : String)
  | fresh (owner : String) (earlier : List String) (name : String)

/-- A demand is not met. White space at the ends of a type's name does not count, but is reported. -/
inductive Unmet (entries : List ClassEntry) : Demand → BuildError → Prop
  | known {context : Context} {name : String} : ¬ KnownType entries (Text.trim name) →
      Unmet entries (.known context name) (.unknownType name context)
  | fresh {owner name : String} {earlier : List String} : name ∈ earlier →
      Unmet entries (.fresh owner earlier name) (.registration (.duplicateMethod owner name))

/-- The demands of a method, given the methods before it: its parameters, its return type, its name. -/
def methodDemands (owner : String) : List MethodEntry × MethodEntry → List Demand
  | (prior,m) =>
    m.params.map (.known (.method owner m.name)) ++
      ([.known (.method owner m.name) m.returns] ++ [.fresh owner (prior.map (·.name)) m.name])

/-- The demands of an entry: those of its constructor, then those of its methods in order. -/
def entryDemands (entry : ClassEntry) : List Demand :=
  entry.constructor.map (.known (.constructor entry.name)) ++
    (withPrior [] entry.methods).flatMap (methodDemands entry.name)

/-- The fault that a table is refused for. -/
inductive Fault (entries : List ClassEntry) : BuildError → Prop
  | superclass {err : BuildError} : FirstFault (Orphan entries) entries err → Fault entries err
  | cycle : NoFault (Orphan entries) entries → (¬ ∃ ordered, Arrangement entries ordered) →
      Fault entries (.superclassCycle (stuckNames entries))
  | name {ordered : List ClassEntry} {err : BuildError} : inheritanceOrder entries = .ok ordered →
      FirstFault NameFault (withPrior [] ordered) err → Fault entries err
  | member {ordered : List ClassEntry} {err : BuildError} : inheritanceOrder entries = .ok ordered →
      NoFault NameFault (withPrior [] ordered) →
      FirstFault (Unmet entries) (entries.flatMap entryDemands) err → Fault entries err

/-- A table without faults, whatever the order of its entries. -/
structure WellFormed (entries : List ClassEntry) : Prop where
  superclasses : NoFault (Orphan entries) entries
  arranged : ∃ ordered, Arrangement entries ordered
  unreserved : ∀ entry ∈ entries, ¬ isReserved entry.name
  distinct : (["Object","String"] ++ entries.map (·.name)).Nodup
  constructors : ∀ entry ∈ entries, ∀ name ∈ entry.constructor, KnownType entries (Text.trim name)
  signatures : ∀ entry ∈ entries, ∀ m ∈ entry.methods, ∀ name ∈ m.params ++ [m.returns],
    KnownType entries (Text.trim name)
  methods : ∀ entry ∈ entries, (entry.methods.map (·.name)).Nodup

/-! ### Lists with what comes before -/

section
variable {α : Type}

theorem forall_withPrior (P : α → Prop) (prior xs : List α) :
    (∀ p ∈ withPrior prior xs, P p.2) ↔ ∀ x ∈ xs, P x := by
  induction xs generalizing prior with
  | nil => simp [withPrior]
  | cons x xs ih => rw [withPrior,List.forall_mem_cons,List.forall_mem_cons,ih]

/-- Keys are all different when none is taken at first and none is among those before it. -/
theorem withPrior_fresh_iff (key : α → String) (taken : List String) (prior xs : List α)
    (distinct : (taken ++ prior.map key).Nodup) :
    (∀ p ∈ withPrior prior xs, key p.2 ∉ taken ++ p.1.map key) ↔
      (taken ++ (prior ++ xs).map key).Nodup := by
  induction xs generalizing prior with
  | nil => simpa [withPrior] using distinct
  | cons x xs ih =>
    have step : (taken ++ (prior ++ [x]).map key).Nodup ↔ key x ∉ taken ++ prior.map key := by
      rw [List.map_append,List.map_singleton,← List.append_assoc,List.nodup_append_comm,
        List.singleton_append,List.nodup_cons]
      exact and_iff_left distinct
    have shift : prior ++ x :: xs = prior ++ [x] ++ xs := by simp
    rw [withPrior,List.forall_mem_cons,shift]
    constructor
    · rintro ⟨fresh,later⟩
      exact (ih (prior ++ [x]) (step.mpr fresh)).mp later
    · intro all
      have begun : (taken ++ (prior ++ [x]).map key).Nodup := by
        rw [List.map_append,← List.append_assoc] at all
        exact (List.nodup_append.mp all).1
      exact ⟨step.mp begun,(ih (prior ++ [x]) begun).mpr all⟩

end

/-! ### Names -/

theorem registerEntry_error_iff {t : ClassTable} {done : List ClassEntry} (registered : Registered t done)
    (entry : ClassEntry) (err : BuildError) :
    registerEntry t entry = .error err ↔ NameFault (done,entry) err := by
  have taken_iff : entry.name ∈ t.names ↔
      entry.name = "Object" ∨ entry.name = "String" ∨ entry.name ∈ done.map (·.name) := by
    rw [registered_names registered]
    simp
  rw [registerEntry_eq registered]
  constructor
  · intro failed
    split at failed
    · rename_i reserved
      cases failed
      exact .reserved reserved
    · rename_i free
      split at failed
      · rename_i taken
        cases failed
        exact .duplicate free (taken_iff.mp taken)
      · cases failed
  · intro fault
    cases fault with
    | reserved reserved => rw [if_pos reserved]
    | duplicate free taken => rw [if_neg free,if_pos (taken_iff.mpr taken)]

theorem register_error_iff {declared placed : List String} {t : ClassTable} {done rest : List ClassEntry}
    (run : Registering declared placed t done rest) (err : BuildError) :
    rest.foldlM registerEntry t = .error err ↔ FirstFault NameFault (withPrior done rest) err := by
  induction rest generalizing t done placed err with
  | nil => exact iff_of_false (pure_not_error _ err) (firstFault_nil err)
  | cons entry rest ih =>
    rw [List.foldlM_cons,withPrior,← List.singleton_append]
    apply bind_firstFault
    · intro err
      rw [registerEntry_error_iff run.registered,firstFault_singleton]
    · intro next added err
      exact ih (registering_step run added) err

/-- A name is free if it is not reserved and no class before has it. -/
theorem noNameFault_iff (p : List ClassEntry × ClassEntry) :
    (∀ err, ¬ NameFault p err) ↔
      ¬ isReserved p.2.name ∧ p.2.name ∉ ["Object","String"] ++ p.1.map (·.name) := by
  obtain ⟨prior,entry⟩ := p
  have taken_iff : entry.name ∈ ["Object","String"] ++ prior.map (·.name) ↔
      entry.name = "Object" ∨ entry.name = "String" ∨ entry.name ∈ prior.map (·.name) := by
    simp
  rw [taken_iff]
  constructor
  · intro fine
    have free : ¬ isReserved entry.name := fun reserved => fine _ (.reserved reserved)
    exact ⟨free,fun taken => fine _ (.duplicate free taken)⟩
  · rintro ⟨free,fresh⟩ err fault
    cases fault with
    | reserved reserved => exact free reserved
    | duplicate _ taken => exact fresh taken

/-- All entries can be registered if their names are different and none is reserved. -/
theorem names_fine_iff (ordered : List ClassEntry) :
    NoFault NameFault (withPrior [] ordered) ↔
      (∀ entry ∈ ordered, ¬ isReserved entry.name) ∧
      (["Object","String"] ++ ordered.map (·.name)).Nodup := by
  have fresh_iff := withPrior_fresh_iff ClassEntry.name ["Object","String"] [] ordered (by decide)
  rw [List.nil_append] at fresh_iff
  simp only [NoFault,noNameFault_iff]
  rw [← fresh_iff,← forall_withPrior _ [] ordered]
  simp only [imp_and,forall_and]

/-! ### Members -/

/-- The types that the table has a name for are those of the entries. -/
def Knows (entries : List ClassEntry) (t : ClassTable) : Prop :=
  ∀ name, (t.resolve? name).isSome ↔ KnownType entries name

section
variable {entries : List ClassEntry} {s t : ClassTable} {c : ClassId} {d : ClassDecl}

theorem knows_congr (same : s.names = t.names) (knows : Knows entries t) : Knows entries s := by
  intro name
  rw [ClassTable.resolve_congr same]
  exact knows name

theorem resolveType_error_iff (knows : Knows entries t) (context : Context) (name : String)
    (err : BuildError) :
    resolveType t context name = .error err ↔ Unmet entries (.known context name) err := by
  have known_iff := knows (Text.trim name)
  rw [resolveType]
  constructor
  · intro failed
    split at failed
    · cases failed
    · rename_i unknown
      cases failed
      rw [unknown] at known_iff
      exact .known fun known => Bool.false_ne_true (known_iff.mpr known)
  · intro unmet
    cases unmet with
    | known unknown =>
      rw [← known_iff,Option.not_isSome_iff_eq_none] at unknown
      rw [unknown]

theorem addMethodEntry_error_iff (knows : Knows entries t) (held : t.get? c = some d) {prior : List MethodEntry}
    (declared : d.methods.map (·.name) = prior.map (·.name)) (m : MethodEntry) (err : BuildError) :
    addMethodEntry d.name c t m = .error err ↔
      FirstFault (Unmet entries) (methodDemands d.name (prior,m)) err := by
  rw [addMethodEntry,methodDemands]
  apply bind_firstFault (mapM_firstFault (resolveType_error_iff knows _) m.params)
  intro params _
  apply bind_firstFault
  · intro err
    rw [resolveType_error_iff knows,firstFault_singleton]
  · intro returns _ err
    rw [ClassTable.addMethod_eq held,declared,firstFault_singleton]
    constructor
    · intro failed
      by_cases taken : m.name ∈ prior.map (·.name)
      · rw [if_pos taken] at failed
        cases failed
        exact .fresh taken
      · rw [if_neg taken] at failed
        cases failed
    · intro unmet
      cases unmet with
      | fresh taken => rw [if_pos taken]

/-- A run over the methods of an entry fails with the first demand that is not met. -/
theorem addMethods_error_iff (knows : Knows entries t) (held : t.get? c = some d) {prior : List MethodEntry}
    (declared : d.methods.map (·.name) = prior.map (·.name)) (ms : List MethodEntry) (err : BuildError) :
    ms.foldlM (addMethodEntry d.name c) t = .error err ↔
      FirstFault (Unmet entries) ((withPrior prior ms).flatMap (methodDemands d.name)) err := by
  induction ms generalizing t d prior err with
  | nil => exact iff_of_false (pure_not_error _ err) (firstFault_nil err)
  | cons m ms ih =>
    rw [List.foldlM_cons,withPrior,List.flatMap_cons]
    apply bind_firstFault (addMethodEntry_error_iff knows held declared m)
    intro next added err
    obtain ⟨method,resolved,rfl⟩ := addMethodEntry_ok held added
    have same : (t.put c { d with methods := d.methods ++ [method] }).names = t.names :=
      ClassTable.names_put held rfl
    have declared_now : (d.methods ++ [method]).map (·.name) = (prior ++ [m]).map (·.name) := by
      rw [List.map_append,List.map_append,declared,List.map_singleton,List.map_singleton,resolved.name]
    exact ih (knows_congr same knows) (ClassTable.get_put_self held _) declared_now err

/-- The members of an entry are added to a class that was registered for it and is still bare. -/
theorem addMembers_error_iff (knows : Knows entries t) {entry : ClassEntry}
    (found : t.find? entry.name = some c) (held : t.get? c = some (declaration s entry)) (err : BuildError) :
    addMembers t entry = .error err ↔ FirstFault (Unmet entries) (entryDemands entry) err := by
  simp only [addMembers,addMembersAt,found,entryDemands]
  apply bind_firstFault (mapM_firstFault (resolveType_error_iff knows _) entry.constructor)
  intro params _ err
  simp only [ClassTable.setConstructor,held]
  have same : (t.put c { declaration s entry with constructor := params }).names = t.names :=
    ClassTable.names_put held rfl
  exact addMethods_error_iff (knows_congr same knows) (ClassTable.get_put_self held _) rfl entry.methods err

end

section
variable {entries ordered done rest : List ClassEntry} {base t : ClassTable}

theorem registered_knows (registered : Registered base ordered) (perm : ordered.Perm entries) :
    Knows entries base := by
  intro name
  have declared_iff := (perm.map (·.name)).mem_iff (a := name)
  rw [ClassTable.resolve_isSome_iff,registered_names registered,KnownType,← declared_iff]
  simp

theorem fill_error_iff (knows : Knows entries base) (registered : Registered base ordered)
    (run : Filling base t done rest) (inside : rest ⊆ ordered) (err : BuildError) :
    rest.foldlM addMembers t = .error err ↔
      FirstFault (Unmet entries) (rest.flatMap entryDemands) err := by
  induction rest generalizing t done err with
  | nil => exact iff_of_false (pure_not_error _ err) (firstFault_nil err)
  | cons entry rest ih =>
    rw [List.foldlM_cons,List.flatMap_cons]
    apply bind_firstFault
    · obtain ⟨c,found,own⟩ := filling_own run
      obtain ⟨id,again,base_held⟩ := entry_registered registered (inside List.mem_cons_self)
      cases Option.some.inj (found.symm.trans again)
      have found_now := (ClassTable.find_congr run.filled.names _).trans found
      have held := (run.filled.others c own).trans base_held
      exact addMembers_error_iff (knows_congr run.filled.names knows) found_now held
    · intro next added err
      exact ih (filling_step run added) (List.subset_of_cons_subset inside) err

end

/-- The demand is met. -/
def Demand.Met (entries : List ClassEntry) : Demand → Prop
  | known _ name => KnownType entries (Text.trim name)
  | fresh _ earlier name => name ∉ earlier

section
variable (entries : List ClassEntry)

theorem noUnmet_iff (demand : Demand) : (∀ err, ¬ Unmet entries demand err) ↔ demand.Met entries := by
  cases demand with
  | known context name =>
    constructor
    · intro fine
      by_contra unknown
      exact fine _ (.known unknown)
    · intro known err unmet
      cases unmet with
      | known unknown => exact unknown known
  | fresh owner earlier name =>
    constructor
    · exact fun fine taken => fine _ (.fresh taken)
    · intro fresh err unmet
      cases unmet with
      | fresh taken => exact fresh taken

theorem methodDemands_met_iff (owner : String) (p : List MethodEntry × MethodEntry) :
    (∀ demand ∈ methodDemands owner p, demand.Met entries) ↔
      (∀ name ∈ p.2.params ++ [p.2.returns], KnownType entries (Text.trim name)) ∧
      p.2.name ∉ [] ++ p.1.map (·.name) := by
  obtain ⟨prior,m⟩ := p
  simp only [methodDemands,List.forall_mem_append,List.forall_mem_map,List.forall_mem_singleton,
    Demand.Met,List.nil_append,and_assoc]

theorem entryDemands_met_iff (entry : ClassEntry) :
    (∀ demand ∈ entryDemands entry, demand.Met entries) ↔
      (∀ name ∈ entry.constructor, KnownType entries (Text.trim name)) ∧
      (∀ m ∈ entry.methods, ∀ name ∈ m.params ++ [m.returns], KnownType entries (Text.trim name)) ∧
      (entry.methods.map (·.name)).Nodup := by
  have fresh_iff := withPrior_fresh_iff MethodEntry.name [] [] entry.methods .nil
  rw [List.nil_append,List.nil_append] at fresh_iff
  rw [entryDemands,List.forall_mem_append,List.forall_mem_map,List.forall_mem_flatMap,
    ← fresh_iff,← forall_withPrior _ [] entry.methods]
  simp only [methodDemands_met_iff,imp_and,forall_and]
  rfl

theorem members_fine_iff :
    NoFault (Unmet entries) (entries.flatMap entryDemands) ↔
      ∀ entry ∈ entries,
        (∀ name ∈ entry.constructor, KnownType entries (Text.trim name)) ∧
        (∀ m ∈ entry.methods, ∀ name ∈ m.params ++ [m.returns], KnownType entries (Text.trim name)) ∧
        (entry.methods.map (·.name)).Nodup := by
  simp only [NoFault,noUnmet_iff]
  rw [List.forall_mem_flatMap]
  simp only [entryDemands_met_iff]

end

/-! ### The whole table -/

/-- The passes after the entries are arranged. -/
theorem passes_error_iff {entries ordered : List ClassEntry} (found : inheritanceOrder entries = .ok ordered)
    (err : BuildError) :
    (ordered.foldlM registerEntry ClassTable.builtin >>= fun t => entries.foldlM addMembers t) = .error err ↔
      FirstFault NameFault (withPrior [] ordered) err ∨
      (NoFault NameFault (withPrior [] ordered) ∧
        FirstFault (Unmet entries) (entries.flatMap entryDemands) err) := by
  have perm := (inheritanceOrder_ok found).2.1
  apply bind_fault_iff (register_error_iff (registering_start found))
  intro base registering
  have registered := register_ok (registering_start found) registering
  exact fill_error_iff (registered_knows registered perm) registered (filling_start registered perm)
    perm.symm.subset err

theorem buildTable_error_iff (entries : List ClassEntry) (err : BuildError) :
    buildTable entries = .error err ↔ Fault entries err := by
  rw [buildTable,bind_error_iff,inheritanceOrder_error_iff]
  constructor
  · rintro ((orphan | ⟨clean,unarranged,rfl⟩) | ⟨ordered,found,failed⟩)
    · exact .superclass orphan
    · exact .cycle clean unarranged
    · rcases (passes_error_iff found err).mp failed with naming | ⟨named,member⟩
      · exact .name found naming
      · exact .member found named member
  · intro fault
    cases fault with
    | superclass orphan => exact .inl (.inl orphan)
    | cycle clean unarranged => exact .inl (.inr ⟨clean,unarranged,rfl⟩)
    | name found naming => exact .inr ⟨_,found,(passes_error_iff found err).mpr (.inl naming)⟩
    | member found named member =>
      exact .inr ⟨_,found,(passes_error_iff found err).mpr (.inr ⟨named,member⟩)⟩

/-- Whether names can be registered does not depend on the order that was found. -/
theorem arranged_names_iff {entries ordered : List ClassEntry} (found : inheritanceOrder entries = .ok ordered) :
    NoFault NameFault (withPrior [] ordered) ↔
      (∀ entry ∈ entries, ¬ isReserved entry.name) ∧
      (["Object","String"] ++ entries.map (·.name)).Nodup := by
  have perm := (inheritanceOrder_ok found).2.1
  rw [names_fine_iff,((perm.map (·.name)).append_left ["Object","String"]).nodup_iff]
  simp only [perm.mem_iff]

/-- The table is built exactly when it has no faults. -/
theorem buildTable_exists_iff (entries : List ClassEntry) :
    (∃ t, buildTable entries = .ok t) ↔ WellFormed entries := by
  have built_iff : (∃ t, buildTable entries = .ok t) ↔ ∀ err, ¬ Fault entries err := by
    simp only [← buildTable_error_iff]
    cases buildTable entries with
    | ok t => simp
    | error err => simp
  rw [built_iff]
  constructor
  · intro sound
    have clean : NoFault (Orphan entries) entries :=
      (noFault_iff entries).mpr fun err orphan => sound err (.superclass orphan)
    have arranged : ∃ ordered, Arrangement entries ordered := by
      by_contra unarranged
      exact sound _ (.cycle clean unarranged)
    obtain ⟨ordered,found⟩ := (inheritanceOrder_exists_iff entries).mpr ⟨clean,arranged⟩
    have named : NoFault NameFault (withPrior [] ordered) :=
      (noFault_iff _).mpr fun err naming => sound err (.name found naming)
    have members : NoFault (Unmet entries) (entries.flatMap entryDemands) :=
      (noFault_iff _).mpr fun err member => sound err (.member found named member)
    rw [members_fine_iff] at members
    obtain ⟨unreserved,distinct⟩ := (arranged_names_iff found).mp named
    exact ⟨clean,arranged,unreserved,distinct,fun entry inside => (members entry inside).1,
      fun entry inside => (members entry inside).2.1,fun entry inside => (members entry inside).2.2⟩
  · intro formed err fault
    have members : NoFault (Unmet entries) (entries.flatMap entryDemands) := by
      rw [members_fine_iff]
      exact fun entry inside => ⟨formed.constructors entry inside,formed.signatures entry inside,
        formed.methods entry inside⟩
    cases fault with
    | superclass orphan => exact (noFault_iff entries).mp formed.superclasses err orphan
    | cycle _ unarranged => exact unarranged formed.arranged
    | name found naming =>
      have named := (arranged_names_iff found).mpr ⟨formed.unreserved,formed.distinct⟩
      exact (noFault_iff _).mp named err naming
    | member _ _ member => exact (noFault_iff _).mp members err member

/-- A configuration is refused for the first fault of the first pass that finds one, and builds if there is
    none. The order in which names are looked at is an arrangement, and is found whenever there is one. -/
theorem build_precedence (c : Config) :
    (∀ err, c.build = .error err ↔ Fault c.classes err) ∧
    ((∃ t, c.build = .ok t) ↔ WellFormed c.classes) ∧
    ((∃ ordered, inheritanceOrder c.classes = .ok ordered ∧ Arrangement c.classes ordered) ↔
      NoFault (Orphan c.classes) c.classes ∧ ∃ ordered, Arrangement c.classes ordered) := by
  refine ⟨buildTable_error_iff c.classes,buildTable_exists_iff c.classes,?_⟩
  rw [← inheritanceOrder_exists_iff]
  constructor
  · rintro ⟨ordered,found,_⟩
    exact ⟨ordered,found⟩
  · rintro ⟨ordered,found⟩
    exact ⟨ordered,found,(inheritanceOrder_ok found).2⟩

-- The first entry waits for its superclass, so its reserved name is met after the taken name of the
-- second; the unknown type of the third is not looked at.
example :
    build { classes := [{ name := "int", superclass := some "String2" }, { name := "String" },
      { name := "String2", constructor := ["Missing"] }] } =
      .error (.registration (.duplicateClass "String")) := by cbv

end Nominal.Config
