import Mathlib.Data.List.Nodup
import Nominal.Proofs.Build
import Nominal.Registry

/-!
What registration keeps. A table grown from the built-in classes is well formed after any operations,
with any arguments and refused ones included: names and positions determine each other, every class but
the root has a superclass that comes before it, and no class declares a method twice. A configuration
grows its table by the same operations, so what it builds is well formed too.
-/

namespace Nominal

theorem isReserved_iff (name : String) :
    isReserved name ↔ (∃ p : Primitive, p.keyword = name) ∨ name = "null" := by
  have listed (p : Primitive) : p ∈ Primitive.all := by cases p <;> decide
  simp [isReserved,Primitive.ofKeyword?,List.find?_isSome,listed]

/-- The declaration may stand at the position. -/
structure ClassDecl.Proper (d : ClassDecl) (c : ClassId) : Prop where
  unreserved : (∀ p : Primitive, d.name ≠ p.keyword) ∧ d.name ≠ "null"
  /-- The first class is the root, and the only one without a superclass. -/
  root : d.superclass = none ↔ c = ⟨0⟩
  upward : ∀ parent, d.superclass = some parent → parent.index < c.index
  methods : (d.methods.map (·.name)).Nodup

theorem unreserved_name {name : String} (free : ¬ isReserved name) :
    (∀ p : Primitive, name ≠ p.keyword) ∧ name ≠ "null" := by
  rw [isReserved_iff,not_or] at free
  exact ⟨fun p same => free.1 ⟨p,same.symm⟩,free.2⟩

namespace ClassTable

/-- The well-known classes come first, under their names, and no name repeats. Positions are numbers of
    any size, so the number of classes has no bound. -/
structure WellFormed (t : ClassTable) : Prop where
  object : t.object = ⟨0⟩
  string : t.string = ⟨1⟩
  builtin : ["Object","String"] <+: t.names
  distinct : t.names.Nodup
  proper : ∀ c d, t.get? c = some d → d.Proper c

section
variable {t : ClassTable}

theorem wellFormed_builtin : builtin.WellFormed := by
  refine ⟨rfl,rfl,by decide,by decide,?_⟩
  rintro ⟨index⟩ d held
  match index, held with
  | 0, held =>
    cases held
    exact ⟨unreserved_name (by decide),by decide,by rintro _ ⟨⟩,by decide⟩
  | 1, held =>
    cases held
    exact ⟨unreserved_name (by decide),by decide,by rintro _ ⟨⟩; decide,by decide⟩

theorem wellFormed_append (formed : t.WellFormed) {new : ClassDecl} (fresh : new.name ∉ t.names)
    (proper : new.Proper ⟨t.classes.length⟩) :
    ({ t with classes := t.classes ++ [new] } : ClassTable).WellFormed := by
  have names : ({ t with classes := t.classes ++ [new] } : ClassTable).names = t.names ++ [new.name] := by
    simp [ClassTable.names]
  refine ⟨formed.object,formed.string,?_,?_,?_⟩
  · rw [names]
    exact formed.builtin.trans (List.prefix_append _ _)
  · rw [names,← List.concat_eq_append]
    exact List.Nodup.concat fresh formed.distinct
  · intro c d held
    rcases (t.get_append_iff new c d).mp held with earlier | ⟨rfl,rfl⟩
    · exact formed.proper c d earlier
    · exact proper

theorem wellFormed_put (formed : t.WellFormed) {c : ClassId} {d new : ClassDecl} (held : t.get? c = some d)
    (same : new.name = d.name) (proper : new.Proper c) : (t.put c new).WellFormed := by
  have names := names_put held same
  refine ⟨formed.object,formed.string,names ▸ formed.builtin,names ▸ formed.distinct,?_⟩
  intro e other other_held
  by_cases here : e = c
  · subst here
    rw [get_put_self held] at other_held
    exact Option.some.inj other_held ▸ proper
  · rw [get_put_other here] at other_held
    exact formed.proper e other other_held

end

end ClassTable

namespace Registry

/-- What the operations keep: the table is well formed, and the index gives what a search would find. -/
structure Sound (r : Registry) : Prop where
  formed : r.table.WellFormed
  index : ∀ name, r.classId? name = r.table.find? name

section
variable {r next : Registry}

private theorem lookup_zipIdx (classes : List ClassDecl) (start : Nat) (name : String) :
    List.lookup name ((classes.zipIdx start).map fun (d,i) => (d.name,ClassId.mk i)) =
      (classes.findIdx? (·.name == name)).map fun i => ⟨start + i⟩ := by
  induction classes generalizing start with
  | nil => rfl
  | cons d rest ih =>
    rw [List.zipIdx_cons,List.map_cons,List.lookup_cons,List.findIdx?_cons]
    by_cases same : d.name = name
    · simp [same]
    · have differ : (name == d.name) = false := by simpa using Ne.symm same
      simp [same,differ,ih,Function.comp_def,Nat.add_assoc,Nat.add_comm 1]

theorem classId_ofTable (t : ClassTable) (name : String) : (ofTable t).classId? name = t.find? name := by
  simpa [ofTable,classId?,ClassTable.entries,ClassTable.find?,Function.comp_def] using
    lookup_zipIdx t.classes 0 name

theorem sound_ofTable {t : ClassTable} (formed : t.WellFormed) : (ofTable t).Sound :=
  ⟨formed,classId_ofTable t⟩

/-- To ask the index is to search the table, if the index gives what a search would find. -/
theorem apply_addClass (index : ∀ name, r.classId? name = r.table.find? name) (name : String)
    (superclass : Option ClassId) :
    r.apply (.addClass name superclass) =
      (r.table.addClass name superclass).map fun added => ⟨added.1,(name,added.2) :: r.index⟩ := by
  rw [apply,index]
  rfl

theorem sound_push (sound : r.Sound) {new : ClassDecl} (fresh : new.name ∉ r.table.names)
    (proper : new.Proper ⟨r.table.classes.length⟩) :
    Sound ⟨{ r.table with classes := r.table.classes ++ [new] },
      (new.name,⟨r.table.classes.length⟩) :: r.index⟩ := by
  refine ⟨ClassTable.wellFormed_append sound.formed fresh proper,?_⟩
  intro name
  rw [ClassTable.find_append_new fresh,← sound.index,classId?,List.lookup_cons]
  by_cases same : new.name = name
  · simp [same]
  · have differ : (name == new.name) = false := by simpa using Ne.symm same
    simp [same,differ,classId?]

theorem sound_put (sound : r.Sound) {c : ClassId} {d new : ClassDecl} (held : r.table.get? c = some d)
    (same : new.name = d.name) (proper : new.Proper c) : Sound { r with table := r.table.put c new } := by
  refine ⟨ClassTable.wellFormed_put sound.formed held same proper,?_⟩
  intro name
  exact (sound.index name).trans (ClassTable.find_congr (ClassTable.names_put held same).symm name)

theorem sound_apply (sound : r.Sound) {op : Operation} (accepted : r.apply op = .ok next) : next.Sound := by
  cases op with
  | addClass name superclass =>
    rw [apply_addClass sound.index] at accepted
    obtain ⟨⟨t,c⟩,added,rfl⟩ := (map_ok_iff _ _ _).mp accepted
    obtain ⟨free,fresh,⟨d,held⟩,rfl,rfl⟩ := (r.table.addClass_ok_iff name superclass t c).mp added
    have before : (superclass.getD r.table.object).index < r.table.classes.length :=
      (List.getElem?_eq_some_iff.mp held).1
    -- The superclass is there already, so the new class is neither the first nor before it.
    refine sound_push sound fresh ⟨unreserved_name free,?_,?_,List.nodup_nil⟩
    · simp only [reduceCtorEq,ClassId.mk.injEq,false_iff]
      omega
    · rintro parent ⟨⟩
      exact before
  | addMethod c m =>
    obtain ⟨t,added,rfl⟩ := (map_ok_iff _ _ _).mp accepted
    obtain ⟨d,held,fresh,rfl⟩ := (r.table.addMethod_ok_iff c m t).mp added
    have proper := sound.formed.proper c d held
    refine sound_put sound held rfl ⟨proper.unreserved,proper.root,proper.upward,?_⟩
    rw [List.map_append,List.map_singleton,← List.concat_eq_append]
    exact List.Nodup.concat fresh proper.methods
  | setConstructor c params =>
    obtain ⟨t,added,rfl⟩ := (map_ok_iff _ _ _).mp accepted
    obtain ⟨d,held,rfl⟩ := (r.table.setConstructor_ok_iff c params t).mp added
    have proper := sound.formed.proper c d held
    exact sound_put sound held rfl ⟨proper.unreserved,proper.root,proper.upward,proper.methods⟩

/-- One operation, accepted or refused. -/
theorem sound_step (sound : r.Sound) (op : Operation) : (r.step op).Sound := by
  unfold step
  split
  · exact sound_apply sound ‹_›
  · exact sound

theorem sound_run (sound : r.Sound) (ops : List Operation) : (r.run ops).Sound := by
  induction ops generalizing r with
  | nil => exact sound
  | cons op ops ih => exact ih (sound_step sound op)

theorem sound_grown (ops : List Operation) : (builtin.run ops).Sound :=
  sound_run (sound_ofTable ClassTable.wellFormed_builtin) ops

end

end Registry

/-- The table is that of a run of operations on the built-in classes. -/
def ClassTable.Grown (t : ClassTable) : Prop := ∃ ops, (Registry.builtin.run ops).table = t

namespace ClassTable

section
variable {t next : ClassTable}

theorem grown_builtin : builtin.Grown := ⟨[],rfl⟩

theorem grown_accepted (ops : List Operation) (op : Operation) {next : Registry}
    (accepted : (Registry.builtin.run ops).apply op = .ok next) : next.table.Grown := by
  refine ⟨ops ++ [op],?_⟩
  rw [Registry.run,List.foldl_append,List.foldl_cons,List.foldl_nil,← Registry.run,Registry.step,accepted]

theorem grown_addClass (grown : t.Grown) {name : String} {superclass : Option ClassId} {c : ClassId}
    (added : t.addClass name superclass = .ok (next,c)) : next.Grown := by
  obtain ⟨ops,rfl⟩ := grown
  have accepted : (Registry.builtin.run ops).apply (.addClass name superclass) =
      .ok ⟨next,(name,c) :: (Registry.builtin.run ops).index⟩ := by
    rw [Registry.apply_addClass (Registry.sound_grown ops).index,added]
    rfl
  exact grown_accepted ops (.addClass name superclass) accepted

theorem grown_addMethod (grown : t.Grown) {c : ClassId} {m : Method} (added : t.addMethod c m = .ok next) :
    next.Grown := by
  obtain ⟨ops,rfl⟩ := grown
  exact grown_accepted ops (.addMethod c m) ((map_ok_iff _ _ _).mpr ⟨_,added,rfl⟩)

theorem grown_setConstructor (grown : t.Grown) {c : ClassId} {params : List Ty}
    (set : t.setConstructor c params = .ok next) : next.Grown := by
  obtain ⟨ops,rfl⟩ := grown
  exact grown_accepted ops (.setConstructor c params) ((map_ok_iff _ _ _).mpr ⟨_,set,rfl⟩)

theorem grown_wellFormed (grown : t.Grown) : t.WellFormed := by
  obtain ⟨ops,rfl⟩ := grown
  exact (Registry.sound_grown ops).formed

end

end ClassTable

/-! ### Tables of configurations -/

namespace Config

/-- The table of the entries before their members are added. -/
def registerAll (entries : List ClassEntry) : Except BuildError ClassTable := do
  let ordered ← inheritanceOrder entries
  ordered.foldlM registerEntry ClassTable.builtin

/-- The table comes about from the first one by setting constructors and adding methods. -/
inductive Furnished (base : ClassTable) : ClassTable → Prop
  | bare : Furnished base base
  | constructor {t next : ClassTable} {c : ClassId} {params : List Ty} : Furnished base t →
      t.setConstructor c params = .ok next → Furnished base next
  | method {t next : ClassTable} {c : ClassId} {m : Method} : Furnished base t →
      t.addMethod c m = .ok next → Furnished base next

theorem buildTable_eq (entries : List ClassEntry) :
    buildTable entries = registerAll entries >>= fun t => entries.foldlM addMembers t := by
  simp only [buildTable,registerAll,bind_assoc]

section
variable {base t next : ClassTable}

theorem grown_registerEntry (grown : t.Grown) {entry : ClassEntry}
    (registered : registerEntry t entry = .ok next) : next.Grown := by
  unfold registerEntry at registered
  split at registered
  · rename_i added
    cases registered
    exact ClassTable.grown_addClass grown added
  · cases registered

theorem grown_registerAll {entries : List ClassEntry} (registered : registerAll entries = .ok base) :
    base.Grown := by
  obtain ⟨ordered,_,run⟩ := (bind_ok_iff _ _ _).mp registered
  exact foldlM_ok_induction (fun _ _ _ grown added => grown_registerEntry grown added)
    ClassTable.grown_builtin run

theorem furnished_grown (grown : base.Grown) (furnished : Furnished base t) : t.Grown := by
  induction furnished with
  | bare => exact grown
  | constructor _ set ih => exact ClassTable.grown_setConstructor ih set
  | method _ added ih => exact ClassTable.grown_addMethod ih added

theorem furnished_names (furnished : Furnished base t) : t.names = base.names := by
  induction furnished with
  | bare => rfl
  | @constructor t next c params _ set ih =>
    obtain ⟨d,held,rfl⟩ := (t.setConstructor_ok_iff c params next).mp set
    rw [← ih]
    exact ClassTable.names_put held rfl
  | @method t next c m _ added ih =>
    obtain ⟨d,held,_,rfl⟩ := (t.addMethod_ok_iff c m next).mp added
    rw [← ih]
    exact ClassTable.names_put held rfl

theorem furnished_addMethodEntry (furnished : Furnished base t) {owner : String} {c : ClassId} {m : MethodEntry}
    (added : addMethodEntry owner c t m = .ok next) : Furnished base next := by
  simp only [addMethodEntry,bind_ok_iff] at added
  obtain ⟨params,_,returns,_,done⟩ := added
  split at done
  · rename_i accepted
    cases done
    exact .method furnished accepted
  · cases done

theorem furnished_addMembersAt (furnished : Furnished base t) {found : Option ClassId} {entry : ClassEntry}
    (added : addMembersAt found t entry = .ok next) : Furnished base next := by
  unfold addMembersAt at added
  split at added
  · cases added
  · obtain ⟨params,_,done⟩ := (bind_ok_iff _ _ _).mp added
    split at done
    · cases done
    · rename_i set
      exact foldlM_ok_induction (fun _ _ _ furnished added => furnished_addMethodEntry furnished added)
        (.constructor furnished set) done

theorem furnished_build {c : Config} (registered : registerAll c.classes = .ok base) (built : c.build = .ok t) :
    Furnished base t := by
  rw [build,buildTable_eq,registered] at built
  exact foldlM_ok_induction (fun _ _ _ furnished added => furnished_addMembersAt furnished added) .bare built

/-- A configuration builds its table by operations on the built-in classes. -/
theorem build_grown {c : Config} (built : c.build = .ok t) : t.Grown := by
  have stages := built
  rw [build,buildTable_eq,bind_ok_iff] at stages
  obtain ⟨base,registered,_⟩ := stages
  exact furnished_grown (grown_registerAll registered) (furnished_build registered built)

end

end Config

/-- The index is the exact inverse of the table: a class is entered under a name exactly when it is
    there and bears that name. -/
structure Registry.Consistent (r : Registry) : Prop extends Sound r where
  inverse : ∀ name c, r.classId? name = some c ↔ ∃ d, r.table.get? c = some d ∧ d.name = name

theorem Registry.sound_consistent {r : Registry} (sound : r.Sound) : r.Consistent := by
  refine ⟨sound,?_⟩
  intro name c
  rw [sound.index]
  exact ClassTable.find_iff sound.formed.distinct name c

/-- The invariant of registration, over all runs from the built-in classes and all configurations. -/
theorem registration_consistent :
    (∀ ops, (Registry.builtin.run ops).Consistent) ∧
      ∀ (c : Config) (t : ClassTable), c.build = .ok t → t.Grown ∧ (Registry.ofTable t).Consistent := by
  constructor
  · intro ops
    exact Registry.sound_consistent (Registry.sound_grown ops)
  · intro c t built
    have grown := Config.build_grown built
    exact ⟨grown,Registry.sound_consistent (Registry.sound_ofTable (ClassTable.grown_wellFormed grown))⟩

theorem Config.forwardReference_builds : ∃ t, forwardReference.build = .ok t := by
  obtain ⟨t,built,_⟩ := exists_ok_of_any forwardReference.build (fun _ => true) (by decide +kernel)
  exact ⟨t,built⟩

theorem forwardReference_consistent :
    ∃ t, Config.forwardReference.build = .ok t ∧ t.Grown ∧ (Registry.ofTable t).Consistent := by
  obtain ⟨t,built⟩ := Config.forwardReference_builds
  exact ⟨t,built,registration_consistent.2 Config.forwardReference t built⟩

end Nominal
