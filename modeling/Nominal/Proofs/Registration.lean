import Nominal.Registration

/-!
Look-ups by name in a growing table. What a name stands for depends on the names of the classes alone,
so changes to the members of a class do not touch it, and a name that is found stays found when classes
are added behind.
-/

namespace Nominal.ClassTable

/-- The names of the classes, in order. -/
def names (t : ClassTable) : List String := t.classes.map (·.name)

theorem find_eq_findIdx (t : ClassTable) (name : String) :
    t.find? name = (t.names.findIdx? (· == name)).map ClassId.mk := by
  rw [find?,names,List.findIdx?_map]
  rfl

theorem find_congr {s t : ClassTable} (same : s.names = t.names) (name : String) :
    s.find? name = t.find? name := by
  rw [find_eq_findIdx,find_eq_findIdx,same]

theorem resolve_congr {s t : ClassTable} (same : s.names = t.names) (name : String) :
    s.resolve? name = t.resolve? name := by
  rw [resolve?,resolve?,find_congr same]

theorem find_isSome_iff (t : ClassTable) (name : String) : (t.find? name).isSome ↔ name ∈ t.names := by
  rw [find_eq_findIdx,Option.isSome_map,List.findIdx?_isSome,List.any_beq']
  exact List.contains_iff_mem

/-- The class that a name is found at bears the name. -/
theorem find_held {t : ClassTable} {name : String} {c : ClassId} (found : t.find? name = some c) :
    ∃ d, t.get? c = some d ∧ d.name = name := by
  obtain ⟨index,position,rfl⟩ := Option.map_eq_some_iff.mp found
  obtain ⟨inside,named,_⟩ := List.findIdx?_eq_some_iff_getElem.mp position
  exact ⟨t.classes[index],List.getElem?_eq_getElem inside,by simpa using named⟩

theorem names_get {t : ClassTable} {c : ClassId} {d : ClassDecl} (held : t.get? c = some d) :
    t.names[c.index]? = some d.name := by
  rw [names,List.getElem?_map,show t.classes[c.index]? = some d from held]
  rfl

/-- Where no name repeats, every class is found by its name. -/
theorem find_of_get {t : ClassTable} (distinct : t.names.Nodup) {c : ClassId} {d : ClassDecl}
    (held : t.get? c = some d) : t.find? d.name = some c := by
  have named := names_get held
  have known : (t.find? d.name).isSome :=
    (t.find_isSome_iff d.name).mpr (List.mem_of_getElem? named)
  obtain ⟨other,found⟩ := Option.isSome_iff_exists.mp known
  obtain ⟨decl,other_held,same⟩ := find_held found
  have other_named : t.names[other.index]? = some d.name := same ▸ names_get other_held
  have position : c.index = other.index :=
    (List.getElem?_inj (List.getElem?_eq_some_iff.mp named).1 distinct).mp (named.trans other_named.symm)
  cases c; cases other
  exact found.trans (congrArg (some ∘ ClassId.mk) position.symm)

/-- Where no name repeats, names and positions determine each other. -/
theorem find_iff {t : ClassTable} (distinct : t.names.Nodup) (name : String) (c : ClassId) :
    t.find? name = some c ↔ ∃ d, t.get? c = some d ∧ d.name = name := by
  constructor
  · exact find_held
  · rintro ⟨d,held,rfl⟩
    exact find_of_get distinct held

/-- A name that is found is still found there when classes are added behind. -/
theorem find_append {t : ClassTable} {name : String} {c : ClassId} (found : t.find? name = some c)
    (more : List ClassDecl) : ({ t with classes := t.classes ++ more } : ClassTable).find? name = some c := by
  obtain ⟨index,position,rfl⟩ := Option.map_eq_some_iff.mp found
  simp [find?,List.findIdx?_append,position]

/-- A name that is new to a table is found at the class added behind. -/
theorem find_append_new {t : ClassTable} {new : ClassDecl} (fresh : new.name ∉ t.names) (name : String) :
    ({ t with classes := t.classes ++ [new] } : ClassTable).find? name =
      if new.name = name then some ⟨t.classes.length⟩ else t.find? name := by
  by_cases same : new.name = name
  · have missing : t.classes.findIdx? (·.name == name) = none := by
      have unknown : ¬ (t.find? name).isSome := fun found => fresh (same ▸ (t.find_isSome_iff name).mp found)
      simpa [find?] using unknown
    simp [find?,List.findIdx?_append,missing,same]
  · cases found : t.classes.findIdx? (·.name == name) with
    | none => simp [find?,List.findIdx?_append,found,same]
    | some index => simp [find?,List.findIdx?_append,found,same]

/-- Behind the classes of a table stands the one that is added. -/
theorem get_append_iff (t : ClassTable) (new : ClassDecl) (c : ClassId) (d : ClassDecl) :
    ({ t with classes := t.classes ++ [new] } : ClassTable).get? c = some d ↔
      t.get? c = some d ∨ (c = ⟨t.classes.length⟩ ∧ d = new) := by
  obtain ⟨index⟩ := c
  simp only [get?,ClassId.mk.injEq,List.getElem?_append]
  split
  · rename_i inside
    constructor
    · exact .inl
    · rintro (held | ⟨same,_⟩)
      · exact held
      · omega
  · rename_i outside
    rw [List.getElem?_eq_none (Nat.le_of_not_lt outside),List.getElem?_singleton]
    by_cases last : index = t.classes.length
    · simp [last,eq_comm]
    · have beyond : index - t.classes.length ≠ 0 := by omega
      simp [last,beyond]

theorem resolve_isSome_iff (t : ClassTable) (name : String) :
    (t.resolve? name).isSome ↔ isReserved name ∨ name ∈ t.names := by
  rw [← find_isSome_iff,resolve?,isReserved]
  cases Primitive.ofKeyword? name with
  | some p => simp
  | none =>
    by_cases null : name = "null"
    · simp [null]
    · simp [null]

/-- With a superclass that the table holds, only the name of a class decides whether it is added. -/
theorem addClass_eq {t : ClassTable} {superclass : Option ClassId} {d : ClassDecl}
    (held : t.get? (superclass.getD t.object) = some d) (name : String) :
    t.addClass name superclass =
      if isReserved name then .error (.reservedName name)
      else if name ∈ t.names then .error (.duplicateClass name)
      else .ok ({ t with classes := t.classes ++ [⟨name,some (superclass.getD t.object),[],[]⟩] },
        ⟨t.classes.length⟩) := by
  simp only [addClass,addClassUnless,find_isSome_iff,held]

/-- A class is added when its name is free and its superclass is there, and it comes last. -/
theorem addClassUnless_ok_iff (t : ClassTable) (bearer : Option ClassId) (name : String)
    (superclass : Option ClassId) (next : ClassTable) (c : ClassId) :
    t.addClassUnless bearer name superclass = .ok (next,c) ↔
      ¬ isReserved name ∧ bearer = none ∧ (∃ d, t.get? (superclass.getD t.object) = some d) ∧
      next = { t with classes := t.classes ++ [⟨name,some (superclass.getD t.object),[],[]⟩] } ∧
      c = ⟨t.classes.length⟩ := by
  simp only [addClassUnless]
  by_cases reserved : isReserved name
  · simp [reserved]
  · cases bearer with
    | some other => simp [reserved]
    | none =>
      cases held : t.get? (superclass.getD t.object) with
      | none => simp [reserved]
      | some d => simp [reserved,eq_comm]

theorem addClass_ok_iff (t : ClassTable) (name : String) (superclass : Option ClassId) (next : ClassTable)
    (c : ClassId) :
    t.addClass name superclass = .ok (next,c) ↔
      ¬ isReserved name ∧ name ∉ t.names ∧ (∃ d, t.get? (superclass.getD t.object) = some d) ∧
      next = { t with classes := t.classes ++ [⟨name,some (superclass.getD t.object),[],[]⟩] } ∧
      c = ⟨t.classes.length⟩ := by
  have free : t.find? name = none ↔ name ∉ t.names := by
    rw [← find_isSome_iff,Option.not_isSome_iff_eq_none]
  rw [addClass,addClassUnless_ok_iff,free]

/-! ### Replacing a declaration -/

section
variable {t : ClassTable} {c : ClassId} {d : ClassDecl}

theorem get_put_self (held : t.get? c = some d) (new : ClassDecl) : (t.put c new).get? c = some new := by
  obtain ⟨inside,_⟩ := List.getElem?_eq_some_iff.mp held
  exact List.getElem?_set_self inside

theorem get_put_other {e : ClassId} (different : e ≠ c) (new : ClassDecl) :
    (t.put c new).get? e = t.get? e := by
  apply List.getElem?_set_ne
  intro same
  cases e; cases c
  exact different (congrArg ClassId.mk same.symm)

theorem names_put (held : t.get? c = some d) {new : ClassDecl} (same : new.name = d.name) :
    (t.put c new).names = t.names := by
  obtain ⟨inside,here⟩ := List.getElem?_eq_some_iff.mp (names_get held)
  rw [names,put,List.map_set,same,← here]
  exact List.set_getElem_self inside

theorem put_put (first second : ClassDecl) : (t.put c first).put c second = t.put c second := by
  simp [put,List.set_set]

/-- On a class that the table holds, only the name of a method decides whether it is added. -/
theorem addMethod_eq (held : t.get? c = some d) (m : Method) :
    t.addMethod c m =
      if m.name ∈ d.methods.map (·.name) then .error (.duplicateMethod d.name m.name)
      else .ok (t.put c { d with methods := d.methods ++ [m] }) := by
  rw [addMethod,held]
  by_cases taken : m.name ∈ d.methods.map (·.name)
  · have found : (d.declared? m.name).isSome := by
      rw [ClassDecl.declared?,List.find?_isSome]
      obtain ⟨other,member,same⟩ := List.mem_map.mp taken
      exact ⟨other,member,beq_iff_eq.mpr same⟩
    obtain ⟨other,here⟩ := Option.isSome_iff_exists.mp found
    simp only [here,if_pos taken]
  · have none_found : d.declared? m.name = none := by
      rw [ClassDecl.declared?,List.find?_eq_none]
      exact fun other member same => taken (List.mem_map.mpr ⟨other,member,beq_iff_eq.mp same⟩)
    simp only [none_found,if_neg taken]

/-- A method is added to a class of the table that has none of its name, behind the others. -/
theorem addMethod_ok_iff (t : ClassTable) (c : ClassId) (m : Method) (next : ClassTable) :
    t.addMethod c m = .ok next ↔ ∃ d, t.get? c = some d ∧ m.name ∉ d.methods.map (·.name) ∧
      next = t.put c { d with methods := d.methods ++ [m] } := by
  cases held : t.get? c with
  | none => simp [addMethod,held]
  | some d =>
    rw [addMethod_eq held]
    by_cases taken : m.name ∈ d.methods.map (·.name)
    · simp only [taken,if_true,reduceCtorEq,Option.some.injEq,exists_eq_left',not_true,false_and]
    · simp only [taken,if_false,Except.ok.injEq,Option.some.injEq,exists_eq_left',not_false_eq_true,
        true_and,eq_comm]

/-- The constructor of any class of the table can be set. -/
theorem setConstructor_ok_iff (t : ClassTable) (c : ClassId) (params : List Ty) (next : ClassTable) :
    t.setConstructor c params = .ok next ↔
      ∃ d, t.get? c = some d ∧ next = t.put c { d with constructor := params } := by
  cases held : t.get? c with
  | none => simp [setConstructor,held]
  | some d => simp [setConstructor,held,eq_comm]

theorem put_get (held : t.get? c = some d) : t.put c d = t := by
  obtain ⟨inside,here⟩ := List.getElem?_eq_some_iff.mp held
  rw [put,← here,List.set_getElem_self]

end

end Nominal.ClassTable
