import Nominal.Proofs.EntryOrder
import Nominal.Proofs.InheritanceCycle
import Nominal.Proofs.PlacementRounds

/-!
Class tables whose entries are in an order of inheritance as they stand. An entry that is placed counts at
once for the entries after it, so a single pass places all entries of such a table without moving any, and
their classes are numbered in the order in which they are written. No other table is left as it is, and
every order that is found is left as it is: to put entries in order twice is to do so once.
-/

namespace Nominal.Config

/-- Every superclass is the name of an earlier entry, or that of a built-in class which the table does not
    declare anew. -/
def InOrder (entries : List ClassEntry) : Prop :=
  ∀ before entry after, entries = before ++ entry :: after → ∀ name, entry.superclass = some name →
    name ∈ before.map (·.name) ∨ (name ∈ ClassTable.builtin.names ∧ name ∉ entries.map (·.name))

/-- The classes of the entries stand behind the two built-in ones, in the order of the entries. -/
def Numbered (entries : List ClassEntry) (t : ClassTable) : Prop :=
  ∀ k entry, entries[k]? = some entry →
    t.find? entry.name = some ⟨k + 2⟩ ∧ ∃ d, t.get? ⟨k + 2⟩ = some d ∧ Describes t entry d

/-! ### Entries that are in order -/

section
variable {entries ordered : List ClassEntry}

theorem inOrder_iff (entries : List ClassEntry) :
    InOrder entries ↔ SuperclassesKnown entries ∧ Arrangement entries entries := by
  constructor
  · intro in_order
    refine ⟨?_,.refl entries,?_⟩
    · intro entry member name given
      obtain ⟨before,after,split⟩ := List.append_of_mem member
      rcases in_order before entry after split name given with earlier | ⟨builtin,_⟩
      · left
        rw [split,List.map_append]
        exact List.mem_append_left _ earlier
      · exact .inr builtin
    · intro before entry after split name given declared
      exact (in_order before entry after split name given).resolve_right fun outside => outside.2 declared
  · rintro ⟨known,_,after_superclass⟩ before entry after split name given
    have member : entry ∈ entries := by simp [split]
    by_cases declared : name ∈ entries.map (·.name)
    · exact .inl (after_superclass before entry after split name given declared)
    · exact .inr ⟨(known entry member name given).resolve_left declared,declared⟩

/-- A pass keeps entries in place when each is ready after those before it. -/
theorem placeReady_keeps {declared placed : List String} (sequenced : Sequenced declared placed entries) :
    placeReady declared placed entries = (entries,[]) := by
  -- The names placed differ from entry to entry: each one placed in the pass counts for the rest of it.
  induction entries generalizing placed with
  | nil => rfl
  | cons entry rest ih =>
    obtain ⟨ready,later⟩ := sequenced
    rw [placeReady,if_pos ((isReady_iff entry).mpr ready),ih later]

theorem placeAll_keeps {declared placed : List String} (sequenced : Sequenced declared placed entries) :
    placeAll declared placed entries = .ok entries := by
  have nothing_left (placed : List String) : placeAll declared placed [] = .ok [] := by
    rw [placeAll,if_pos rfl]
  cases entries with
  | nil => exact nothing_left placed
  | cons entry rest =>
    rw [placeAll,if_neg (List.cons_ne_nil entry rest)]
    simp only [placeReady_keeps sequenced,List.cons_ne_nil,dite_false,nothing_left]
    exact congrArg Except.ok (List.append_nil (entry :: rest))

/-- The tables that are left as they are. -/
theorem inheritanceOrder_eq_self_iff (entries : List ClassEntry) :
    inheritanceOrder entries = .ok entries ↔ InOrder entries := by
  rw [inOrder_iff,superclassesKnown_iff]
  constructor
  · exact inheritanceOrder_ok
  · rintro ⟨clean,arranged⟩
    rw [inheritanceOrder_eq_placeAll clean]
    exact placeAll_keeps ((arrangement_iff entries entries).mp arranged).2

/-- An order has the same names as the table, so its entries wait for the same superclasses. -/
theorem inheritanceOrder_inOrder (found : inheritanceOrder entries = .ok ordered) : InOrder ordered := by
  obtain ⟨clean,arranged⟩ := inheritanceOrder_ok found
  have perm : entries.Perm ordered := arranged.1.symm
  rw [inOrder_iff,superclassesKnown_iff]
  exact ⟨noOrphan_perm perm clean,arrangement_perm perm arranged⟩

end

/-! ### Positions -/

theorem registered_position {t : ClassTable} {done : List ClassEntry} (registered : Registered t done) {k : Nat}
    {entry : ClassEntry} (there : done[k]? = some entry) : t.find? entry.name = some ⟨k + 2⟩ := by
  have held : t.get? ⟨k + 2⟩ = some (declaration t entry) := by
    change t.classes[k + 2]? = _
    rw [registered.classes,List.getElem?_append_right (Nat.le_add_left 2 k),List.getElem?_map]
    exact congrArg (Option.map (declaration t)) there
  exact ClassTable.find_of_get registered.distinct held

/-- Classes are numbered in the order in which they are registered. -/
theorem built_numbered {c : Config} {t : ClassTable} {ordered : List ClassEntry}
    (found : inheritanceOrder c.classes = .ok ordered) (built : c.build = .ok t) : Numbered ordered t := by
  obtain ⟨base,registering,_⟩ := (bind_ok_iff _ _ _).mp ((buildTable_eq c.classes).symm.trans built)
  -- Adding members changes no name, so the classes stay where registration put them.
  have names : t.names = base.names := furnished_names (furnished_build registering built)
  rw [registerAll,found] at registering
  have registered : Registered base ordered := register_ok (registering_start found) registering
  intro k entry there
  have here : t.find? entry.name = some ⟨k + 2⟩ :=
    (ClassTable.find_congr names _).trans (registered_position registered there)
  have member : entry ∈ c.classes := (inheritanceOrder_ok found).2.1.subset (List.mem_of_getElem? there)
  obtain ⟨id,d,again,held,described⟩ := built_entry built member
  cases Option.some.inj (here.symm.trans again)
  exact ⟨here,d,held,described⟩

/-- Entries that are in order, and only those, are left as they are, and if a table is built from them their
    classes are numbered as they are written. An order that has been found is left as it is. -/
theorem inheritanceOrder_stable (c : Config) :
    (InOrder c.classes ↔ inheritanceOrder c.classes = .ok c.classes) ∧
    (InOrder c.classes → ∀ t, c.build = .ok t → Numbered c.classes t) ∧
    ∀ ordered, inheritanceOrder c.classes = .ok ordered → inheritanceOrder ordered = .ok ordered := by
  refine ⟨(inheritanceOrder_eq_self_iff c.classes).symm,?_,?_⟩
  · intro in_order t built
    exact built_numbered ((inheritanceOrder_eq_self_iff c.classes).mpr in_order) built
  · intro ordered found
    exact (inheritanceOrder_eq_self_iff ordered).mpr (inheritanceOrder_inOrder found)

/-- A class behind its superclass and before one that has nothing to wait for, and a class that extends a
    built-in one. -/
def superclassesFirst : Config :=
  { classes :=
      [{ name := "Animal" }, { name := "Dog", superclass := some "Animal" }, { name := "Person" },
       { name := "Label", superclass := some "String" }] }

theorem superclassesFirst_numbered :
    InOrder superclassesFirst.classes ∧
      inheritanceOrder superclassesFirst.classes = .ok superclassesFirst.classes ∧
      (∃ t, superclassesFirst.build = .ok t ∧ Numbered superclassesFirst.classes t) ∧
      inheritanceOrder forwardReference.classes = .ok forwardReference.classes.reverse ∧
      inheritanceOrder forwardReference.classes.reverse = .ok forwardReference.classes.reverse := by
  obtain ⟨kept,numbered,_⟩ := inheritanceOrder_stable superclassesFirst
  obtain ⟨_,_,again⟩ := inheritanceOrder_stable forwardReference
  have in_order : InOrder superclassesFirst.classes := by
    rw [inOrder_iff,arrangement_iff]
    simp [superclassesFirst,SuperclassesKnown,Sequenced,Ready,ClassTable.names,ClassTable.builtin]
  have reversed : inheritanceOrder forwardReference.classes = .ok forwardReference.classes.reverse := by
    decide +kernel
  obtain ⟨t,built,_⟩ := exists_ok_of_any superclassesFirst.build (fun _ => true) (by decide +kernel)
  exact ⟨in_order,kept.mp in_order,⟨t,built,numbered in_order t built⟩,reversed,again _ reversed⟩

end Nominal.Config
