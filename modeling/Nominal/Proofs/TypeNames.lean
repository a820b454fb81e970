import Nominal.Proofs.TypeClosure

/-!
Names and types of a registry. Every type that is known has one name, which leads back to it, and every name
that leads to a type is the name of that type. Keywords and `null` are tried before the classes, and no class
is hidden by that: a class cannot be registered under such a name. The index of a registry gives the position
at which the class of that name stands, so names never lead to a wrong class.
-/

namespace Nominal.Registry

/-- Names and known types correspond one to one. -/
structure NamesTypes (r : Registry) : Prop where
  /-- The name of a known type stands for the type. -/
  back : ∀ a, r.table.Known a → r.resolve? (r.table.typeName a) = some a
  /-- A name that stands for a type is the name that the type goes by. -/
  forth : ∀ name a, r.resolve? name = some a → r.table.Known a ∧ r.table.typeName a = name
  /-- No two known types go by the same name. -/
  distinct : ∀ a b, r.table.Known a → r.table.Known b → r.table.typeName a = r.table.typeName b → a = b
  /-- A class that is entered under a name is what the name stands for. -/
  unhidden : ∀ name c, r.classId? name = some c ↔ r.resolve? name = some (.object c)

section
variable {r : Registry}

/-- With a sound index, a name is resolved as by a search of the table. -/
theorem resolve_eq (sound : r.Sound) (name : String) : r.resolve? name = r.table.resolve? name := by
  cases word : Primitive.ofKeyword? name with
  | some p => simp only [resolve?,ClassTable.resolve?,word]
  | none => simp only [resolve?,ClassTable.resolve?,word,sound.index]

theorem classId_iff_resolve (sound : r.Sound) (name : String) (c : ClassId) :
    r.classId? name = some c ↔ r.resolve? name = some (.object c) := by
  rw [sound.index,resolve_eq sound]
  constructor
  · intro found
    exact (ClassTable.resolve_object_iff sound.formed found name).mpr rfl
  · intro resolved
    -- The name is that of the class, and names determine positions.
    have spelt := ClassTable.typeName_of_resolve resolved
    obtain ⟨d,held⟩ := ClassTable.resolve_known resolved
    rw [ClassTable.typeName,held] at spelt
    exact (ClassTable.find_iff sound.formed.distinct name c).mpr ⟨d,held,spelt⟩

theorem namesTypes_of_sound (sound : r.Sound) : r.NamesTypes := by
  have back (a : Ty) (known : r.table.Known a) : r.resolve? (r.table.typeName a) = some a :=
    (resolve_eq sound _).trans (ClassTable.resolve_typeName sound.formed known)
  refine ⟨back,?_,?_,classId_iff_resolve sound⟩
  · intro name a resolved
    rw [resolve_eq sound] at resolved
    exact ⟨ClassTable.resolve_known resolved,ClassTable.typeName_of_resolve resolved⟩
  · intro a b knownLeft knownRight same
    have left := back a knownLeft
    rw [same,back b knownRight] at left
    exact (Option.some.inj left).symm

end

/-- Names and types correspond after any run of registration, refused operations included, and in every table
    that a configuration builds. -/
theorem registration_namesTypes :
    (∀ ops, (builtin.run ops).NamesTypes) ∧
      ∀ (c : Config) (t : ClassTable), c.build = .ok t → (ofTable t).NamesTypes := by
  constructor
  · intro ops
    exact namesTypes_of_sound (sound_grown ops)
  · intro c t built
    exact namesTypes_of_sound (sound_ofTable (ClassTable.grown_wellFormed (Config.build_grown built)))

/-- Classes whose names come near to reserved ones, or to the way unknown classes are shown, and two attempts
    that are refused. -/
def nearMisses : Registry :=
  builtin.run [.addClass "Int" none,.addClass "int" none,.addClass "<unknown#7>" (some ⟨2⟩),
    .addClass "null " (some ⟨3⟩),.addClass "Int" (some ⟨4⟩)]

theorem nearMisses_namesTypes :
    nearMisses.classId? "<unknown#7>" = some ⟨3⟩ ∧ nearMisses.resolve? "<unknown#7>" = some (.object ⟨3⟩) ∧
      nearMisses.table.Known (.object ⟨2⟩) ∧
      nearMisses.resolve? (nearMisses.table.typeName (.object ⟨2⟩)) = some (.object ⟨2⟩) ∧
      ∃ t, Config.forwardReference.build = .ok t ∧ (ofTable t).NamesTypes := by
  have named : nearMisses.NamesTypes := registration_namesTypes.1 _
  have entered : nearMisses.classId? "<unknown#7>" = some ⟨3⟩ := by decide
  have known : nearMisses.table.Known (.object ⟨2⟩) := by decide
  obtain ⟨t,built⟩ := Config.forwardReference_builds
  exact ⟨entered,(named.unhidden _ _).mp entered,known,named.back _ known,t,built,
    registration_namesTypes.2 Config.forwardReference t built⟩

end Nominal.Registry
