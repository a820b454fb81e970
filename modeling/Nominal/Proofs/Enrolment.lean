import Nominal.Config.Enrolment
import Nominal.Proofs.PlacementRounds
import Nominal.Proofs.WellFormed

/-!
Builds that keep a roll. The roll is filled in an order of inheritance and read in the order of the entries,
and it has no other use than to say where the class of an entry stands. Whatever the entries are, each of
them is found on the roll when its members are due, at the class of its own name; so no operation of a build
is refused for want of a class, and the table is the one that a search by name would build.
-/

namespace Nominal

/-- The class that must be there for an operation: the one to be extended or changed. -/
def Operation.subject (t : ClassTable) : Operation → ClassId
  | .addClass _ superclass => superclass.getD t.object
  | .addMethod c _ => c
  | .setConstructor c _ => c

theorem ClassTable.root_held {t : ClassTable} (formed : t.WellFormed) : ∃ d, t.get? t.object = some d := by
  obtain ⟨more,names⟩ := formed.builtin
  have first : t.names[0]? = some "Object" := by rw [← names]; rfl
  obtain ⟨d,held,_⟩ := Option.map_eq_some_iff.mp ((List.getElem?_map ..).symm.trans first)
  rw [formed.object]
  exact ⟨d,held⟩

/-- An operation on a class that is there is not refused for want of it. -/
theorem Registry.known_of_held {t : ClassTable} {op : Operation} {d : ClassDecl}
    (held : t.get? (op.subject t) = some d) (id : ClassId) :
    (Registry.ofTable t).apply op ≠ .error (.unknownClass id) := by
  cases op with
  | addClass name superclass =>
    have decided := ClassTable.addClass_eq held name
    rw [apply_addClass (classId_ofTable t)]
    by_cases reserved : isReserved name
    · simp [ofTable,decided,reserved,Except.map]
    · by_cases taken : name ∈ t.names
      · simp [ofTable,decided,reserved,taken,Except.map]
      · simp [ofTable,decided,reserved,taken,Except.map]
  | addMethod c m =>
    have decided : t.addMethod c m = _ := ClassTable.addMethod_eq held m
    by_cases taken : m.name ∈ d.methods.map (·.name)
    · rw [if_pos taken] at decided
      simp [apply,ofTable,decided,Except.map]
    · rw [if_neg taken] at decided
      simp [apply,ofTable,decided,Except.map]
  | setConstructor c params =>
    have accepted := (t.setConstructor_ok_iff c params _).mpr ⟨d,held,rfl⟩
    simp [apply,ofTable,accepted,Except.map]

namespace Config

open Enrolment (enrol furnish)

/-! ### The course of a build -/

/-- Registration under way: what has been enrolled, and the entries that follow. -/
def Enrolling (entries : List ClassEntry) (e : Enrolment) (rest : List ClassEntry) : Prop :=
  ∃ done, inheritanceOrder entries = .ok (done ++ rest) ∧ done.foldlM enrol .start = .ok e

/-- The member pass under way: the table so far, and the entries that follow. -/
def Furnishing (entries : List ClassEntry) (e : Enrolment) (t : ClassTable) (rest : List ClassEntry) : Prop :=
  Enrolment.ofEntries entries = .ok e ∧
    ∃ done, entries = done ++ rest ∧ done.foldlM (furnish e.roll) e.table = .ok t

/-- The constructor of an entry has been set: the table so far, and the methods that follow. -/
def Equipping (entries : List ClassEntry) (entry : ClassEntry) (c : ClassId) (t : ClassTable)
    (rest : List MethodEntry) : Prop :=
  ∃ e before later params first done, Furnishing entries e before (entry :: later) ∧
    e.roll.lookup entry.name = some c ∧
    entry.constructor.mapM (resolveType before (.constructor entry.name)) = .ok params ∧
    before.setConstructor c params = .ok first ∧
    entry.methods = done ++ rest ∧ done.foldlM (addMethodEntry entry.name c) first = .ok t

/-- The operations that a build asks for, each with the table to which it is applied. -/
inductive Asks (entries : List ClassEntry) : ClassTable → Operation → Prop
  | addClass {e : Enrolment} {entry : ClassEntry} {rest : List ClassEntry} :
      Enrolling entries e (entry :: rest) →
      Asks entries e.table (.addClass entry.name (entry.superclass.bind e.table.find?))
  | setConstructor {e : Enrolment} {t : ClassTable} {entry : ClassEntry} {rest : List ClassEntry}
      {c : ClassId} {params : List Ty} :
      Furnishing entries e t (entry :: rest) → e.roll.lookup entry.name = some c →
      entry.constructor.mapM (resolveType t (.constructor entry.name)) = .ok params →
      Asks entries t (.setConstructor c params)
  | addMethod {t : ClassTable} {entry : ClassEntry} {c : ClassId} {m : MethodEntry}
      {rest : List MethodEntry} {params : List Ty} {returns : Ty} :
      Equipping entries entry c t (m :: rest) →
      m.params.mapM (resolveType t (.method entry.name m.name)) = .ok params →
      resolveType t (.method entry.name m.name) m.returns = .ok returns →
      Asks entries t (.addMethod c ⟨m.name,params,returns⟩)

/-- The ways in which a build ends early. For which superclass or type is of no interest here. -/
inductive Halts (entries : List ClassEntry) : BuildError → Prop
  | orphan {name superclass : String} : Halts entries (.unknownSuperclass name superclass)
  | cycle {names : List String} : Halts entries (.superclassCycle names)
  | refused {t : ClassTable} {op : Operation} {refusal : RegistrationError} : Asks entries t op →
      (Registry.ofTable t).apply op = .error refusal → Halts entries (.registration refusal)
  | missing {e : Enrolment} {t : ClassTable} {entry : ClassEntry} {rest : List ClassEntry} :
      Furnishing entries e t (entry :: rest) → e.roll.lookup entry.name = none →
      Halts entries (.unregistered entry.name)
  | unresolved {name : String} {context : Context} : Halts entries (.unknownType name context)

section
variable {entries : List ClassEntry} {e : Enrolment} {t : ClassTable} {entry : ClassEntry}
  {rest : List ClassEntry} {err : BuildError}

theorem resolveType_halts {context : Context} {name : String}
    (failed : resolveType t context name = .error err) : Halts entries err := by
  unfold resolveType at failed
  split at failed
  · cases failed
  · cases failed
    exact .unresolved

theorem resolveTypes_halts {context : Context} {names : List String}
    (failed : names.mapM (resolveType t context) = .error err) : Halts entries err := by
  obtain ⟨name,_,here⟩ := mapM_error_some failed
  exact resolveType_halts here

theorem enrol_halts (reached : Enrolling entries e (entry :: rest)) (failed : enrol e entry = .error err) :
    Halts entries err := by
  unfold enrol at failed
  split at failed
  · cases failed
  · rename_i refusal refused
    cases failed
    refine .refused (.addClass reached) ?_
    rw [Registry.apply_addClass (Registry.classId_ofTable e.table)]
    simp [Registry.ofTable,refused,Except.map]

theorem addMethodEntry_halts {c : ClassId} {m : MethodEntry} {later : List MethodEntry}
    (reached : Equipping entries entry c t (m :: later))
    (failed : addMethodEntry entry.name c t m = .error err) : Halts entries err := by
  simp only [addMethodEntry,bind_error_iff] at failed
  rcases failed with params_failed | ⟨params,params_resolved,returns_failed | ⟨returns,returns_resolved,failed⟩⟩
  · exact resolveTypes_halts params_failed
  · exact resolveType_halts returns_failed
  · split at failed
    · cases failed
    · rename_i refusal refused
      cases failed
      refine .refused (.addMethod reached params_resolved returns_resolved) ?_
      simp [Registry.apply,Registry.ofTable,refused,Except.map]

theorem furnish_halts (reached : Furnishing entries e t (entry :: rest))
    (failed : furnish e.roll t entry = .error err) : Halts entries err := by
  simp only [furnish,addMembersAt] at failed
  split at failed
  · rename_i absent
    cases failed
    exact .missing reached absent
  · rename_i c found
    rw [bind_error_iff] at failed
    rcases failed with params_failed | ⟨params,resolved,failed⟩
    · exact resolveTypes_halts params_failed
    · split at failed
      · rename_i refusal refused
        cases failed
        refine .refused (.setConstructor reached found resolved) ?_
        simp [Registry.apply,Registry.ofTable,refused,Except.map]
      · rename_i first set
        obtain ⟨done,m,later,u,split,run,failed⟩ := (foldlM_error_iff _ _ _ _).mp failed
        exact addMethodEntry_halts ⟨e,t,rest,params,first,done,reached,found,resolved,set,split,run⟩ failed

/-- A build that fails does so in one of the ways listed. -/
theorem build_halts {c : Config} (failed : c.buildByRoll = .error err) : Halts c.classes err := by
  rw [buildByRoll,bind_error_iff] at failed
  rcases failed with failed | ⟨e,enrolled,failed⟩
  · rw [Enrolment.ofEntries,bind_error_iff] at failed
    rcases failed with unordered | ⟨ordered,found,failed⟩
    · rcases inheritanceOrder_error_kind unordered with ⟨name,superclass,rfl⟩ | ⟨names,rfl⟩
      · exact .orphan
      · exact .cycle
    · obtain ⟨done,entry,rest,e,rfl,run,failed⟩ := (foldlM_error_iff _ _ _ _).mp failed
      exact enrol_halts ⟨done,found,run⟩ failed
  · obtain ⟨done,entry,rest,t,split,run,failed⟩ := (foldlM_error_iff _ _ _ _).mp failed
    exact furnish_halts ⟨enrolled,done,split,run⟩ failed

end

/-! ### The roll -/

/-- Every entry is on the roll, with the class that a search by its name would find. -/
def Enrolled (e : Enrolment) (entries : List ClassEntry) : Prop :=
  ∀ entry ∈ entries, ∃ c, e.roll.lookup entry.name = some c ∧ e.table.find? entry.name = some c

section
variable {entries : List ClassEntry} {e next : Enrolment} {t : ClassTable} {entry : ClassEntry}
  {done rest : List ClassEntry}

theorem enrol_ok_iff (e next : Enrolment) (entry : ClassEntry) :
    enrol e entry = .ok next ↔ ∃ t c, next = ⟨t,(entry.name,c) :: e.roll⟩ ∧
      e.table.addClass entry.name (entry.superclass.bind e.table.find?) = .ok (t,c) := by
  rw [enrol]
  cases e.table.addClass entry.name (entry.superclass.bind e.table.find?) with
  | ok added =>
    obtain ⟨t,c⟩ := added
    constructor
    · rintro ⟨⟩
      exact ⟨t,c,rfl,rfl⟩
    · rintro ⟨_,_,rfl,⟨⟩⟩
      rfl
  | error refused => simp

/-- A name that is accepted is new to the table, so it hides no class that is on the roll already. -/
theorem enrolled_step (enrolled : Enrolled e done) (accepted : enrol e entry = .ok next) :
    Enrolled next (done ++ [entry]) := by
  obtain ⟨t,c,rfl,added⟩ := (enrol_ok_iff e next entry).mp accepted
  obtain ⟨_,fresh,_,rfl,rfl⟩ := (e.table.addClass_ok_iff _ _ t c).mp added
  intro other member
  rcases List.mem_append.mp member with earlier | last
  · obtain ⟨place,listed,found⟩ := enrolled other earlier
    have named : other.name ∈ e.table.names := (e.table.find_isSome_iff _).mp (by simp [found])
    have differ : other.name ≠ entry.name := fun same => fresh (same ▸ named)
    refine ⟨place,?_,ClassTable.find_append found _⟩
    rw [List.lookup_cons,beq_eq_false_iff_ne.mpr differ]
    exact listed
  · rw [List.mem_singleton.mp last]
    refine ⟨⟨e.table.classes.length⟩,?_,?_⟩
    · rw [List.lookup_cons,beq_self_eq_true]
    · rw [ClassTable.find_append_new fresh,if_pos rfl]

theorem enrolled_run (enrolled : Enrolled e done) (run : rest.foldlM enrol e = .ok next) :
    Enrolled next (done ++ rest) := by
  induction rest generalizing e done with
  | nil =>
    cases run
    rw [List.append_nil]
    exact enrolled
  | cons entry rest ih =>
    rw [List.foldlM_cons,bind_ok_iff] at run
    obtain ⟨middle,first,others⟩ := run
    rw [← List.singleton_append,← List.append_assoc]
    exact ih (enrolled_step enrolled first) others

/-- The order of registration is a rearrangement of the entries, so all of them are enrolled. -/
theorem ofEntries_enrolled (registered : Enrolment.ofEntries entries = .ok e) : Enrolled e entries := by
  obtain ⟨ordered,found,run⟩ := (bind_ok_iff _ _ _).mp registered
  have all : Enrolled e ([] ++ ordered) := enrolled_run (by simp [Enrolled]) run
  have perm := (inheritanceOrder_ok found).2.1
  exact fun entry member => all entry (perm.mem_iff.mpr member)

theorem enrol_table (e : Enrolment) (entry : ClassEntry) :
    (enrol e entry).map (·.table) = registerEntry e.table entry := by
  rw [enrol,registerEntry]
  cases e.table.addClass entry.name (entry.superclass.bind e.table.find?) with
  | ok added => rfl
  | error refused => rfl

/-- Without its roll, enrolment is registration. -/
theorem ofEntries_table (entries : List ClassEntry) :
    (Enrolment.ofEntries entries).map (·.table) = registerAll entries := by
  rw [Enrolment.ofEntries,registerAll]
  cases inheritanceOrder entries with
  | error err => rfl
  | ok ordered => exact foldlM_map enrol_table ordered .start

theorem enrolling_grown (reached : Enrolling entries e rest) : e.table.Grown := by
  obtain ⟨done,_,run⟩ := reached
  have tables := foldlM_map enrol_table done .start
  rw [run] at tables
  exact foldlM_ok_induction (fun _ _ _ grown added => grown_registerEntry grown added)
    ClassTable.grown_builtin tables.symm

theorem furnishing_furnished (reached : Furnishing entries e t rest) : Furnished e.table t := by
  obtain ⟨_,_,_,run⟩ := reached
  exact foldlM_ok_induction (fun _ _ _ furnished added => furnished_addMembersAt furnished added) .bare run

theorem furnishing_next (reached : Furnishing entries e t (entry :: rest)) : entry ∈ entries := by
  obtain ⟨_,done,split,_⟩ := reached
  simp [split]

/-- The roll tells where the class of an entry stands at every point of the member pass. -/
theorem enrolled_found (enrolled : Enrolled e entries) (furnished : Furnished e.table t)
    (member : entry ∈ entries) :
    ∃ c, e.roll.lookup entry.name = some c ∧ t.find? entry.name = some c := by
  obtain ⟨c,listed,found⟩ := enrolled entry member
  exact ⟨c,listed,(ClassTable.find_congr (furnished_names furnished) _).trans found⟩

/-- The members of enrolled entries go where a search would put them. -/
theorem furnish_run (enrolled : Enrolled e entries) (inside : rest ⊆ entries) (furnished : Furnished e.table t) :
    rest.foldlM (furnish e.roll) t = rest.foldlM addMembers t := by
  induction rest generalizing t with
  | nil => rfl
  | cons entry rest ih =>
    obtain ⟨c,listed,found⟩ := enrolled_found enrolled furnished (inside List.mem_cons_self)
    have same : furnish e.roll t entry = addMembers t entry := by rw [furnish,addMembers,listed,found]
    rw [List.foldlM_cons,List.foldlM_cons,same]
    cases added : addMembers t entry with
    | error err => rfl
    | ok next =>
      have later : rest ⊆ entries := fun _ listed => inside (List.mem_cons_of_mem _ listed)
      exact ih later (furnished_addMembersAt furnished added)

end

/-- The roll makes no difference to what is built. -/
theorem build_eq_byRoll (c : Config) : c.build = c.buildByRoll := by
  rw [build,buildTable_eq,← ofEntries_table,buildByRoll]
  cases registered : Enrolment.ofEntries c.classes with
  | error err => rfl
  | ok e => exact (furnish_run (ofEntries_enrolled registered) (List.Subset.refl _) .bare).symm

/-! ### Classes that operations refer to -/

section
variable {entries : List ClassEntry} {e : Enrolment} {t : ClassTable} {entry : ClassEntry}

/-- However far the member pass has come, the roll leads from an entry to the class of its name. -/
theorem roll_held (registered : Enrolment.ofEntries entries = .ok e) (furnished : Furnished e.table t)
    (member : entry ∈ entries) :
    ∃ id d, e.roll.lookup entry.name = some id ∧ t.get? id = some d ∧ d.name = entry.name := by
  obtain ⟨id,listed,found⟩ := enrolled_found (ofEntries_enrolled registered) furnished member
  obtain ⟨d,held,named⟩ := ClassTable.find_held found
  exact ⟨id,d,listed,held,named⟩

theorem equipping_held {c : ClassId} {rest : List MethodEntry} (reached : Equipping entries entry c t rest) :
    ∃ d, t.get? c = some d := by
  obtain ⟨e,before,later,params,first,done,furnishing,listed,_,set,_,run⟩ := reached
  have furnished : Furnished e.table t := foldlM_ok_induction
    (fun _ _ _ furnished added => furnished_addMethodEntry furnished added)
    (.constructor (furnishing_furnished furnishing) set) run
  obtain ⟨id,d,there,held,_⟩ := roll_held furnishing.1 furnished (furnishing_next furnishing)
  cases Option.some.inj (listed.symm.trans there)
  exact ⟨d,held⟩

/-- A build asks for no operation on a class that is not there. -/
theorem asks_held {op : Operation} (asked : Asks entries t op) : ∃ d, t.get? (op.subject t) = some d := by
  cases asked with
  | @addClass e entry rest reached =>
    cases given : entry.superclass.bind e.table.find? with
    | none => exact ClassTable.root_held (ClassTable.grown_wellFormed (enrolling_grown reached))
    | some parent =>
      obtain ⟨name,_,found⟩ := Option.bind_eq_some_iff.mp given
      obtain ⟨d,held,_⟩ := ClassTable.find_held found
      exact ⟨d,held⟩
  | @setConstructor e _ entry rest c params reached listed =>
    obtain ⟨id,d,there,held,_⟩ :=
      roll_held reached.1 (furnishing_furnished reached) (furnishing_next reached)
    cases Option.some.inj (listed.symm.trans there)
    exact ⟨d,held⟩
  | addMethod reached => exact equipping_held reached

end

/-- Whatever a build refers to is there. -/
structure Assured (c : Config) : Prop where
  /-- All through the member pass every entry is on the roll, at the class of its name. -/
  enrolled : ∀ e t rest, Furnishing c.classes e t rest → ∀ entry ∈ c.classes, ∃ id d,
    e.roll.lookup entry.name = some id ∧ t.get? id = some d ∧ d.name = entry.name
  asked : ∀ t op, Asks c.classes t op → ∀ id, (Registry.ofTable t).apply op ≠ .error (.unknownClass id)
  /-- No other operation is refused in a build. -/
  refused : ∀ refusal, c.buildByRoll = .error (.registration refusal) →
    ∃ t op, Asks c.classes t op ∧ (Registry.ofTable t).apply op = .error refusal
  known : ∀ id, c.buildByRoll ≠ .error (.registration (.unknownClass id))
  registered : ∀ name, c.buildByRoll ≠ .error (.unregistered name)
  same : c.build = c.buildByRoll

/-- No configuration makes its build look for an entry that is not on the roll, or for a class that is not in
    the table. -/
theorem build_assured (c : Config) : Assured c := by
  have enrolled (e : Enrolment) (t : ClassTable) (rest : List ClassEntry) (reached : Furnishing c.classes e t rest)
      (entry : ClassEntry) (member : entry ∈ c.classes) :
      ∃ id d, e.roll.lookup entry.name = some id ∧ t.get? id = some d ∧ d.name = entry.name :=
    roll_held reached.1 (furnishing_furnished reached) member
  have asked (t : ClassTable) (op : Operation) (asks : Asks c.classes t op) (id : ClassId) :
      (Registry.ofTable t).apply op ≠ .error (.unknownClass id) := by
    obtain ⟨d,held⟩ := asks_held asks
    exact Registry.known_of_held held id
  have refused (refusal : RegistrationError) (failed : c.buildByRoll = .error (.registration refusal)) :
      ∃ t op, Asks c.classes t op ∧ (Registry.ofTable t).apply op = .error refusal := by
    cases build_halts failed with
    | refused asks here => exact ⟨_,_,asks,here⟩
  refine ⟨enrolled,asked,refused,?_,?_,build_eq_byRoll c⟩
  · intro id failed
    obtain ⟨t,op,asks,here⟩ := refused _ failed
    exact asked t op asks id here
  · intro name failed
    cases build_halts failed with
    | @missing e t entry rest reached absent =>
      obtain ⟨id,_,listed,_⟩ := enrolled e t _ reached entry (furnishing_next reached)
      rw [absent] at listed
      cases listed

/-- A class that is registered after one that comes later among the entries. -/
theorem forwardReference_assured :
    ∃ e, Enrolment.ofEntries forwardReference.classes = .ok e ∧ e.roll = [("Dog",⟨3⟩),("Animal",⟨2⟩)] ∧
      ∀ entry ∈ forwardReference.classes, ∃ id d, e.roll.lookup entry.name = some id ∧
        e.table.get? id = some d ∧ d.name = entry.name := by
  obtain ⟨e,registered,listed⟩ := exists_ok_of_any (Enrolment.ofEntries forwardReference.classes)
    (fun e => e.roll == [("Dog",⟨3⟩),("Animal",⟨2⟩)]) (by decide +kernel)
  have reached : Furnishing forwardReference.classes e e.table forwardReference.classes :=
    ⟨registered,[],rfl,rfl⟩
  exact ⟨e,registered,by simpa using listed,(build_assured forwardReference).enrolled e e.table _ reached⟩

end Config

end Nominal
