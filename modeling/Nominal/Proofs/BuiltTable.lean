import Nominal.Proofs.SubtypeOrder

/-!
The classes of a table that a configuration has built: the built-in ones, where they stood, and one for
each entry. Signatures are resolved in the finished table, so every type in them is one that the table
knows.
-/

namespace Nominal

namespace ClassTable

instance (t : ClassTable) : DecidablePred t.Known
  | .primitive _ => .isTrue trivial
  | .null => .isTrue trivial
  | .object _ => decidable_of_iff _ Option.isSome_iff_exists

/-- What a name stands for is known. -/
theorem resolve_known {t : ClassTable} {name : String} {a : Ty} (resolved : t.resolve? name = some a) :
    t.Known a := by
  unfold resolve? at resolved
  split at resolved
  · cases resolved
    trivial
  · split at resolved
    · cases resolved
      trivial
    · obtain ⟨c,found,rfl⟩ := Option.map_eq_some_iff.mp resolved
      obtain ⟨d,held,_⟩ := find_held found
      exact ⟨d,held⟩

end ClassTable

/-- The types in the signatures of a class. -/
def ClassDecl.signatureTypes (d : ClassDecl) : List Ty :=
  d.constructor ++ d.methods.flatMap fun m => m.params ++ [m.returns]

namespace ClassTable

/-- The signatures of the table mention known types only. -/
def Closed (t : ClassTable) : Prop := ∀ c d, t.get? c = some d → ∀ a ∈ d.signatureTypes, t.Known a

theorem closed_builtin : builtin.Closed := by
  have all : ∀ d ∈ builtin.classes, ∀ a ∈ d.signatureTypes, builtin.Known a := by decide
  intro c d held
  exact all d (List.mem_of_getElem? held)

end ClassTable

namespace Config

section
variable {c : Config} {t : ClassTable}

theorem built_distinct (built : c.build = .ok t) : t.names.Nodup :=
  (ClassTable.grown_wellFormed (build_grown built)).distinct

theorem built_names (built : c.build = .ok t) (name : String) :
    name ∈ t.names ↔ name ∈ ClassTable.builtin.names ∨ name ∈ c.classes.map (·.name) := by
  obtain ⟨ordered,base,perm,registered,filled⟩ := build_stages built
  rw [filled.names,registered_names registered,List.mem_append,(perm.map (·.name)).mem_iff]
  rfl

/-- The built-in classes stand where they stood. -/
theorem built_builtin (built : c.build = .ok t) {id : ClassId} {d : ClassDecl}
    (held : ClassTable.builtin.get? id = some d) : t.find? d.name = some id ∧ t.get? id = some d := by
  obtain ⟨ordered,base,perm,registered,filled⟩ := build_stages built
  have kept := builtin_kept registered perm filled held
  exact ⟨ClassTable.find_of_get (built_distinct built) kept,kept⟩

/-- Every entry has its class in the table. -/
theorem built_entry (built : c.build = .ok t) {entry : ClassEntry} (member : entry ∈ c.classes) :
    ∃ id d, t.find? entry.name = some id ∧ t.get? id = some d ∧ Describes t entry d := by
  obtain ⟨ordered,base,perm,registered,filled⟩ := build_stages built
  exact entry_described registered perm filled entry member

/-- A class of the table is a built-in one or that of an entry. -/
theorem built_origin (built : c.build = .ok t) {id : ClassId} {d : ClassDecl} (held : t.get? id = some d) :
    ClassTable.builtin.get? id = some d ∨
      ∃ entry ∈ c.classes, entry.name = d.name ∧ Describes t entry d := by
  have found := ClassTable.find_of_get (built_distinct built) held
  rcases (built_names built d.name).mp ((t.find_isSome_iff d.name).mp (found ▸ rfl)) with first | declared
  · left
    obtain ⟨place,there⟩ := Option.isSome_iff_exists.mp ((ClassTable.builtin.find_isSome_iff d.name).mpr first)
    obtain ⟨decl,builtin_held,named⟩ := ClassTable.find_held there
    obtain ⟨found_again,held_again⟩ := built_builtin built builtin_held
    rw [named] at found_again
    cases Option.some.inj (found.symm.trans found_again)
    rw [builtin_held,← held_again,held]
  · right
    obtain ⟨entry,member,named⟩ := List.mem_map.mp declared
    obtain ⟨place,decl,found_again,held_again,described⟩ := built_entry built member
    rw [named] at found_again
    cases Option.some.inj (found.symm.trans found_again)
    cases Option.some.inj (held.symm.trans held_again)
    exact ⟨entry,member,named,described⟩

/-! ### Signatures -/

theorem resolves_known {names : List String} {types : List Ty} (resolved : List.Forall₂ (Resolves t) names types) :
    ∀ a ∈ types, t.Known a := by
  induction resolved with
  | nil => simp
  | cons first _ ih => exact List.forall_mem_cons.mpr ⟨ClassTable.resolve_known first,ih⟩

theorem methodResolves_known {ms : List MethodEntry} {methods : List Method}
    (resolved : List.Forall₂ (MethodResolves t) ms methods) :
    ∀ m ∈ methods, ∀ a ∈ m.params ++ [m.returns], t.Known a := by
  induction resolved with
  | nil => simp
  | cons first _ ih =>
    refine List.forall_mem_cons.mpr ⟨?_,ih⟩
    rw [List.forall_mem_append,List.forall_mem_singleton]
    exact ⟨resolves_known first.params,ClassTable.resolve_known first.returns⟩

/-- The signatures of a built table mention known types only. -/
theorem build_closed (built : c.build = .ok t) : t.Closed := by
  intro id d held
  rcases built_origin built held with first | ⟨entry,_,_,described⟩
  · intro a member
    have known := ClassTable.closed_builtin id d first a member
    cases a with
    | primitive p => trivial
    | null => trivial
    | object place =>
      obtain ⟨decl,there⟩ := known
      exact ⟨decl,(built_builtin built there).2⟩
  · rw [ClassDecl.signatureTypes,List.forall_mem_append,List.forall_mem_flatMap]
    exact ⟨resolves_known described.constructor,methodResolves_known described.methods⟩

end

end Config

end Nominal
