import Mathlib.Data.List.DropRight
import Mathlib.Data.List.TakeWhile
import Nominal.Proofs.BuildFaults
import Nominal.Proofs.InheritanceCycle
import Nominal.Proofs.TypeClosure

/-!
The classes that signatures can mention. A class is registered under its name as it is written, but white
space at the ends of a name in a signature does not count. So a class whose name has no white space at its
ends is what that name stands for in every signature, and a class whose name has some is not mentioned by
any signature, under its own name or another.
-/

namespace Nominal

namespace Text

theorem trim_toList (s : String) : (trim s).toList = (s.toList.dropWhile isBlank).rdropWhile isBlank := by
  rw [trim,String.toList_ofList,List.rdropWhile]

/-- Nothing is left to remove. -/
theorem trim_trim (s : String) : trim (trim s) = trim s := by
  apply String.toList_inj.mp
  rw [trim_toList,trim_toList]
  generalize s.toList = cs
  -- What is left at the end is a beginning of what was left at the start, with the same first character.
  have first : ((cs.dropWhile isBlank).rdropWhile isBlank).dropWhile isBlank =
      (cs.dropWhile isBlank).rdropWhile isBlank := by
    rw [List.dropWhile_eq_self_iff]
    intro some_left
    rw [(List.rdropWhile_prefix isBlank _).getElem some_left]
    exact List.dropWhile_get_zero_not isBlank cs _
  rw [first,List.rdropWhile_idempotent]

end Text

namespace Config

/-! ### Registration -/

/-- All entries can be registered: no superclass is unknown, no entry waits for ever, and no name is reserved
    or taken. -/
structure Registrable (entries : List ClassEntry) : Prop where
  known : SuperclassesKnown entries
  acyclic : ∀ entry ∈ entries, ¬ Stuck entries entry
  unreserved : ∀ entry ∈ entries, ¬ isReserved entry.name
  distinct : (["Object","String"] ++ entries.map (·.name)).Nodup

theorem registerAll_exists_iff (entries : List ClassEntry) :
    (∃ base, registerAll entries = .ok base) ↔ Registrable entries := by
  have arranged_iff : (∃ ordered, Arrangement entries ordered) ↔ ∀ entry ∈ entries, ¬ Stuck entries entry := by
    have stuck_iff := unarrangeable_iff_stuck entries
    rw [not_iff_comm] at stuck_iff
    rw [← stuck_iff]
    push Not
    rfl
  constructor
  · rintro ⟨base,registered⟩
    obtain ⟨ordered,found,run⟩ := (bind_ok_iff _ _ _).mp registered
    obtain ⟨clean,arranged⟩ := inheritanceOrder_ok found
    have named := (exists_ok_iff (register_error_iff (registering_start found))).mp ⟨base,run⟩
    obtain ⟨unreserved,distinct⟩ := (arranged_names_iff found).mp named
    exact ⟨(superclassesKnown_iff entries).mpr clean,arranged_iff.mp ⟨ordered,arranged⟩,unreserved,distinct⟩
  · rintro ⟨known,acyclic,unreserved,distinct⟩
    obtain ⟨ordered,found⟩ := (inheritanceOrder_exists_iff entries).mpr
      ⟨(superclassesKnown_iff entries).mp known,arranged_iff.mpr acyclic⟩
    have named := (arranged_names_iff found).mpr ⟨unreserved,distinct⟩
    obtain ⟨base,run⟩ := (exists_ok_iff (register_error_iff (registering_start found))).mpr named
    exact ⟨base,(bind_ok_iff _ _ _).mpr ⟨ordered,found,run⟩⟩

end Config

/-! ### Mentions -/

/-- The names in the signatures of an entry, in the order in which the types stand in a declaration. -/
def ClassEntry.signatureNames (entry : ClassEntry) : List String :=
  entry.constructor ++ entry.methods.flatMap fun m => m.params ++ [m.returns]

namespace Config

theorem describes_signatures {t : ClassTable} {entry : ClassEntry} {d : ClassDecl}
    (described : Describes t entry d) : List.Forall₂ (Resolves t) entry.signatureNames d.signatureTypes := by
  refine List.rel_append described.constructor (List.rel_flatMap described.methods ?_)
  intro m method resolved
  exact List.rel_append resolved.params (.cons resolved.returns .nil)

/-- How signatures mention the class that was registered for an entry. -/
structure Mentioned (c : Config) (base : ClassTable) (entry : ClassEntry) (id : ClassId) : Prop where
  found : base.find? entry.name = some id
  held : ∃ d, base.get? id = some d ∧ d.name = entry.name
  /-- A name stands for the class if it is that of the class, with white space around it or none. -/
  resolved : ∀ t, Furnished base t → ∀ context name,
    resolveType t context name = .ok (.object id) ↔ Text.trim name = entry.name
  signatures : ∀ t, c.build = .ok t → ∀ user ∈ c.classes, ∃ place d, t.find? user.name = some place ∧
    t.get? place = some d ∧ List.Forall₂ (fun name type => type = .object id ↔ Text.trim name = entry.name)
      user.signatureNames d.signatureTypes
  /-- A name without white space at its ends is never unknown. -/
  known : Text.trim entry.name = entry.name → ∀ context, c.build ≠ .error (.unknownType entry.name context)
  /-- A name with white space at its ends is not mentioned at all. -/
  unmentioned : Text.trim entry.name ≠ entry.name →
    (∀ t, Furnished base t → ∀ context name, resolveType t context name ≠ .ok (.object id)) ∧
    ∀ t, c.build = .ok t → ∀ place d, t.get? place = some d → .object id ∉ d.signatureTypes

section
variable {c : Config} {base t : ClassTable} {entry : ClassEntry} {id : ClassId}

theorem resolves_object_iff (formed : t.WellFormed) (found : t.find? entry.name = some id) (name : String) :
    Resolves t name (.object id) ↔ Text.trim name = entry.name :=
  ClassTable.resolve_object_iff formed found (Text.trim name)

/-- A type that is unknown in a build is not the name of an entry, white space aside. -/
theorem unknownType_undeclared {name : String} {context : Context}
    (failed : c.build = .error (.unknownType name context)) : ¬ KnownType c.classes (Text.trim name) := by
  cases (buildTable_error_iff c.classes _).mp failed with
  | superclass first =>
    obtain ⟨_,_,_,_,_,orphan⟩ := first
    cases orphan
  | name _ first =>
    obtain ⟨_,_,_,_,_,fault⟩ := first
    cases fault
  | member _ _ first =>
    obtain ⟨_,_,_,_,_,unmet⟩ := first
    cases unmet with
    | known unknown => exact unknown

/-- The built-in classes have no white space at the ends of their names, so what their signatures mention
    has none either. -/
theorem builtin_unmentioned (built : c.build = .ok t) (found : t.find? entry.name = some id)
    (blank : Text.trim entry.name ≠ entry.name) {place : ClassId} {d : ClassDecl}
    (held : ClassTable.builtin.get? place = some d) : .object id ∉ d.signatureTypes := by
  intro mentioned
  obtain ⟨decl,there⟩ := ClassTable.closed_builtin place d held _ mentioned
  obtain ⟨named,_⟩ := built_builtin built there
  obtain ⟨one,heldOne,nameOne⟩ := ClassTable.find_held found
  obtain ⟨other,heldOther,nameOther⟩ := ClassTable.find_held named
  cases Option.some.inj (heldOne.symm.trans heldOther)
  have bare : ∀ decl ∈ ClassTable.builtin.classes, Text.trim decl.name = decl.name := by decide +kernel
  have here := bare decl (List.mem_of_getElem? there)
  rw [← nameOther,nameOne] at here
  exact blank here

theorem unresolved_absent {names : List String} {types : List Ty} {a : Ty}
    (resolved : List.Forall₂ (Resolves t) names types) (never : ∀ name, ¬ Resolves t name a) : a ∉ types := by
  induction resolved with
  | nil => simp
  | cons first _ ih =>
    rw [List.mem_cons]
    rintro (rfl | later)
    · exact never _ first
    · exact ih later

/-- What is left of a name without the white space at its ends has none there, so it is not the name of the
    entry. -/
theorem blank_unresolved (formed : t.WellFormed) (found : t.find? entry.name = some id)
    (blank : Text.trim entry.name ≠ entry.name) (name : String) : ¬ Resolves t name (.object id) := by
  rw [resolves_object_iff formed found]
  intro same
  apply blank
  rw [← same,Text.trim_trim]

theorem built_unmentioned (built : c.build = .ok t) (found : t.find? entry.name = some id)
    (blank : Text.trim entry.name ≠ entry.name) {place : ClassId} {d : ClassDecl} (held : t.get? place = some d) :
    .object id ∉ d.signatureTypes := by
  have formed := ClassTable.grown_wellFormed (build_grown built)
  rcases built_origin built held with builtin | ⟨user,_,_,described⟩
  · exact builtin_unmentioned built found blank builtin
  · exact unresolved_absent (describes_signatures described) (blank_unresolved formed found blank)

theorem registerAll_find (registered : registerAll c.classes = .ok base) (member : entry ∈ c.classes) :
    ∃ id, base.find? entry.name = some id := by
  obtain ⟨ordered,found,run⟩ := (bind_ok_iff _ _ _).mp registered
  have complete : Registered base ordered := register_ok (registering_start found) run
  have perm := (inheritanceOrder_ok found).2.1
  obtain ⟨id,here,_⟩ := entry_registered complete (perm.mem_iff.mpr member)
  exact ⟨id,here⟩

/-- In every table that comes about from the registered one, names stand for what they stood for. -/
theorem entry_mentioned (registered : registerAll c.classes = .ok base) (member : entry ∈ c.classes) :
    ∃ id, Mentioned c base entry id := by
  obtain ⟨id,found⟩ := registerAll_find registered member
  have formed {t : ClassTable} (furnished : Furnished base t) : t.WellFormed :=
    ClassTable.grown_wellFormed (furnished_grown (grown_registerAll registered) furnished)
  have found_in {t : ClassTable} (furnished : Furnished base t) : t.find? entry.name = some id :=
    (ClassTable.find_congr (furnished_names furnished) _).trans found
  refine ⟨id,found,ClassTable.find_held found,?_,?_,?_,?_⟩
  · intro t furnished context name
    rw [resolveType_ok_iff]
    exact resolves_object_iff (formed furnished) (found_in furnished) name
  · intro t built user inside
    have furnished := furnished_build registered built
    obtain ⟨place,d,there,held,described⟩ := built_entry built inside
    refine ⟨place,d,there,held,(describes_signatures described).imp ?_⟩
    intro name type resolved
    rw [← resolves_object_iff (formed furnished) (found_in furnished),Resolves,
      show t.resolve? (Text.trim name) = some type from resolved,Option.some.injEq]
  · intro bare context failed
    refine unknownType_undeclared failed ?_
    rw [bare]
    exact .inr (.inr (.inr (List.mem_map_of_mem member)))
  · intro blank
    constructor
    · intro t furnished context name
      rw [ne_eq,resolveType_ok_iff]
      exact blank_unresolved (formed furnished) (found_in furnished) blank name
    · intro t built place d held
      exact built_unmentioned built (found_in (furnished_build registered built)) blank held

end

/-- In a table whose classes can all be registered, the name of a class stands for that class in every
    signature, and is never unknown, exactly if it has no white space at its ends. -/
theorem mention_iff_trimmed (c : Config) (registrable : Registrable c.classes) :
    ∃ base, registerAll c.classes = .ok base ∧ ∀ entry ∈ c.classes, ∃ id, Mentioned c base entry id := by
  obtain ⟨base,registered⟩ := (registerAll_exists_iff c.classes).mpr registrable
  exact ⟨base,registered,fun entry member => entry_mentioned registered member⟩

instance (entries : List ClassEntry) : Decidable (Registrable entries) :=
  decidable_of_iff ((registerAll entries).toBool = true) (by
    rw [← registerAll_exists_iff]
    cases registerAll entries <;> simp [Except.toBool])

/-- Classes of the given names, and one with a constructor that mentions a name. -/
def mentioning (names : List String) (mention : String) : Config :=
  { classes := names.map ({ name := · }) ++ [{ name := "Kennel", constructor := [mention] }] }

/-- Of two names that differ in white space, the signatures mention the one without. -/
theorem looseTwin_mentioned :
    Registrable (mentioning ["Dog ","Dog"] "Dog ").classes ∧
      ∃ base dog loose, base.find? "Dog" = some dog ∧ base.find? "Dog " = some loose ∧
        ∀ context, resolveType base context "Dog" = .ok (.object dog) ∧
          resolveType base context "Dog " = .ok (.object dog) ∧
          ∀ name, resolveType base context name ≠ .ok (.object loose) := by
  have registrable : Registrable (mentioning ["Dog ","Dog"] "Dog ").classes := by decide +kernel
  obtain ⟨base,_,mentioned⟩ := mention_iff_trimmed (mentioning ["Dog ","Dog"] "Dog ") registrable
  obtain ⟨dog,tight⟩ := mentioned { name := "Dog" } (by decide)
  obtain ⟨loose,blank⟩ := mentioned { name := "Dog " } (by decide)
  refine ⟨registrable,base,dog,loose,tight.found,blank.found,?_⟩
  intro context
  exact ⟨(tight.resolved base .bare context "Dog").mpr (by decide +kernel),
    (tight.resolved base .bare context "Dog ").mpr (by decide +kernel),
    (blank.unmentioned (by decide +kernel)).1 base .bare context⟩

/-- The name of a class, with white space at its end, is unknown in a signature; or it stands for another
    class; or for a primitive type. -/
theorem looseName_strays :
    (Registrable (mentioning ["Dog "] "Dog ").classes ∧
      (mentioning ["Dog "] "Dog ").build = .error (.unknownType "Dog " (.constructor "Kennel"))) ∧
    (Registrable (mentioning ["Dog ","Dog"] "Dog ").classes ∧
      ∃ t, (mentioning ["Dog ","Dog"] "Dog ").build = .ok t ∧ t.find? "Dog " = some ⟨2⟩ ∧
        t.constructor? (.object ⟨4⟩) = some [.object ⟨3⟩]) ∧
    (Registrable (mentioning [" int"] " int").classes ∧
      ∃ t, (mentioning [" int"] " int").build = .ok t ∧ t.find? " int" = some ⟨2⟩ ∧
        t.constructor? (.object ⟨3⟩) = some [.primitive .int]) := by
  have other := exists_ok_of_any (mentioning ["Dog ","Dog"] "Dog ").build
    (fun t => t.find? "Dog " = some ⟨2⟩ ∧ t.constructor? (.object ⟨4⟩) = some [.object ⟨3⟩])
    (by decide +kernel)
  have primitive := exists_ok_of_any (mentioning [" int"] " int").build
    (fun t => t.find? " int" = some ⟨2⟩ ∧ t.constructor? (.object ⟨3⟩) = some [.primitive .int])
    (by decide +kernel)
  simp only [decide_eq_true_eq] at other primitive
  exact ⟨⟨by decide +kernel,by decide +kernel⟩,⟨by decide +kernel,other⟩,⟨by decide +kernel,primitive⟩⟩

end Config

end Nominal
