import Mathlib.Order.Preorder.Finite
import Nominal.Proofs.Build

/-!
When a class table is refused for a cycle of inheritance, and which names are reported. The passes leave
over the stuck entries, whatever names repeat. Where no name repeats, an entry is stuck exactly when its
superclasses can be followed inside the table without end, and since a table is finite that is the case
exactly for the members of cycles and for the entries below them.
-/

namespace Nominal.Config

/-- Every superclass is a name of the table or a built-in class. -/
def SuperclassesKnown (entries : List ClassEntry) : Prop :=
  ∀ entry ∈ entries, ∀ name, entry.superclass = some name →
    name ∈ entries.map (·.name) ∨ name ∈ ClassTable.builtin.names

/-- The second entry is in the table and bears the name of the superclass of the first. -/
def ParentEntry (entries : List ClassEntry) (entry parent : ClassEntry) : Prop :=
  parent ∈ entries ∧ entry.superclass = some parent.name

/-- From the entry on, superclasses can be followed inside the table without end. -/
def Endless (entries : List ClassEntry) (entry : ClassEntry) : Prop :=
  ∃ way : Nat → ClassEntry, way 0 = entry ∧ ∀ n, ParentEntry entries (way n) (way (n + 1))

/-- The entry is a member of a cycle of inheritance, or a descendant of one. -/
def LeadsToCycle (entries : List ClassEntry) (entry : ClassEntry) : Prop :=
  ∃ member, Relation.ReflTransGen (ParentEntry entries) entry member ∧
    Relation.TransGen (ParentEntry entries) member member

section
variable {entries : List ClassEntry} {entry parent : ClassEntry}

theorem superclassesKnown_iff (entries : List ClassEntry) :
    SuperclassesKnown entries ↔ NoFault (Orphan entries) entries := by
  constructor
  · intro known entry member err orphan
    cases orphan with
    | @unknown name given undeclared not_object not_string =>
      rcases known entry member name given with declared | builtin
      · exact undeclared declared
      · have named : name = "Object" ∨ name = "String" := by
          simpa [ClassTable.names,ClassTable.builtin] using builtin
        exact named.elim not_object not_string
  · intro clean entry member
    exact noOrphan_known clean entry member

/-! ### Stuck entries -/

/-- The entries that bear the name of a stuck entry's superclass are stuck as well. -/
theorem stuck_parent (stuck : Stuck entries entry) (above : ParentEntry entries entry parent) :
    Stuck entries parent := by
  obtain ⟨name,given,_,never⟩ := stuck
  obtain ⟨member,named⟩ := above
  cases Option.some.inj (given.symm.trans named)
  cases next : parent.superclass with
  | none => exact absurd (.root member next) never
  | some further =>
    refine ⟨further,next,?_,fun placeable => never (.after member next placeable)⟩
    by_contra outside
    exact never (.outside member next outside)

theorem stuck_has_parent (stuck : Stuck entries entry) : ∃ parent, ParentEntry entries entry parent := by
  obtain ⟨name,given,declared,_⟩ := stuck
  obtain ⟨parent,member,rfl⟩ := List.mem_map.mp declared
  exact ⟨parent,member,given⟩

/-! ### Ways without end -/

/-- A property that passes from an entry to some entry above it gives a way without end. -/
theorem endless_of_passes {P : ClassEntry → Prop}
    (passes : ∀ entry, P entry → ∃ parent, ParentEntry entries entry parent ∧ P parent) (holds : P entry) :
    Endless entries entry := by
  choose up above kept using passes
  let next (e : { e // P e }) : { e // P e } := ⟨up e.1 e.2,kept e.1 e.2⟩
  refine ⟨fun n => (next^[n] ⟨entry,holds⟩).1,rfl,?_⟩
  intro n
  simp only [Function.iterate_succ_apply']
  exact above _ _

theorem endless_parent (endless : Endless entries entry) :
    ∃ parent, ParentEntry entries entry parent ∧ Endless entries parent := by
  obtain ⟨way,rfl,above⟩ := endless
  exact ⟨way 1,above 0,fun n => way (n + 1),rfl,fun n => above (n + 1)⟩

theorem endless_of_stuck (stuck : Stuck entries entry) : Endless entries entry := by
  refine endless_of_passes ?_ stuck
  intro entry stuck
  obtain ⟨parent,above⟩ := stuck_has_parent stuck
  exact ⟨parent,above,stuck_parent stuck above⟩

/-- Where no name repeats, the way up from an entry is the only one, so it ends if the name can be
    placed. -/
theorem placeable_ends (distinct : (entries.map (·.name)).Nodup) {name : String}
    (placeable : Placeable entries name) :
    ∀ entry ∈ entries, entry.name = name → ¬ Endless entries entry := by
  have same {one other : ClassEntry} (first : one ∈ entries) (second : other ∈ entries)
      (named : one.name = other.name) : one = other := List.inj_on_of_nodup_map distinct first second named
  induction placeable with
  | @root other member given =>
    rintro entry inside named endless
    obtain ⟨parent,⟨_,above⟩,_⟩ := endless_parent endless
    rw [same inside member named,given] at above
    cases above
  | @outside other name member given unknown =>
    rintro entry inside named endless
    obtain ⟨parent,⟨there,above⟩,_⟩ := endless_parent endless
    rw [same inside member named,given] at above
    cases above
    exact unknown (List.mem_map_of_mem there)
  | @after other name member given _ ih =>
    rintro entry inside named endless
    obtain ⟨parent,⟨there,above⟩,further⟩ := endless_parent endless
    rw [same inside member named,given] at above
    cases above
    exact ih parent there rfl further

theorem stuck_iff_endless (distinct : (entries.map (·.name)).Nodup) (entry : ClassEntry) :
    Stuck entries entry ↔ Endless entries entry := by
  constructor
  · exact endless_of_stuck
  · intro endless
    obtain ⟨parent,⟨member,given⟩,further⟩ := endless_parent endless
    exact ⟨parent.name,given,List.mem_map_of_mem member,
      fun placeable => placeable_ends distinct placeable parent member rfl further⟩

/-! ### Cycles -/

/-- The entry above a member of a cycle is a member of the cycle too. -/
theorem leadsToCycle_parent (leadsToCycle : LeadsToCycle entries entry) :
    ∃ parent, ParentEntry entries entry parent ∧ LeadsToCycle entries parent := by
  obtain ⟨member,path,cycle⟩ := leadsToCycle
  rcases path.cases_head with rfl | ⟨parent,above,rest⟩
  · obtain ⟨parent,above,back⟩ := Relation.TransGen.head'_iff.mp cycle
    exact ⟨parent,above,parent,.refl,Relation.TransGen.tail' back above⟩
  · exact ⟨parent,above,member,rest,cycle⟩

theorem way_reaches {way : Nat → ClassEntry} (above : ∀ n, ParentEntry entries (way n) (way (n + 1)))
    (start count : Nat) : Relation.ReflTransGen (ParentEntry entries) (way start) (way (start + count)) := by
  induction count with
  | zero => exact .refl
  | succ count ih => exact ih.tail (above (start + count))

/-- A way without end comes back to an entry that it has met, for the table has finitely many. -/
theorem leadsToCycle_of_endless (endless : Endless entries entry) : LeadsToCycle entries entry := by
  obtain ⟨way,rfl,above⟩ := endless
  have finite : { e | e ∈ entries }.Finite := List.finite_toSet entries
  obtain ⟨first,second,earlier,again⟩ :=
    finite.exists_lt_map_eq_of_forall_mem fun n => (above n).1
  obtain ⟨count,rfl⟩ := Nat.exists_eq_add_of_lt earlier
  have start := way_reaches above 0 (first + 1)
  have round := Relation.TransGen.head' (above (first + 1)) (way_reaches above (first + 1 + 1) count)
  rw [Nat.zero_add] at start
  refine ⟨way (first + 1),start,?_⟩
  have back : way (first + 1 + 1 + count) = way (first + 1) := by
    rw [again]
    congr 1
    omega
  rwa [back] at round

theorem endless_iff_leadsToCycle (entries : List ClassEntry) (entry : ClassEntry) :
    Endless entries entry ↔ LeadsToCycle entries entry :=
  ⟨leadsToCycle_of_endless,endless_of_passes fun _ => leadsToCycle_parent⟩

end

/-! ### The report -/

/-- There is no arrangement exactly when some entry is stuck. -/
theorem unarrangeable_iff_stuck (entries : List ClassEntry) :
    (¬ ∃ ordered, Arrangement entries ordered) ↔ ∃ entry ∈ entries, Stuck entries entry := by
  classical
  constructor
  · intro never
    cases placing : placeAll (entries.map (·.name)) [] entries with
    | ok ordered =>
      exact absurd ⟨ordered,(arrangement_iff entries ordered).mpr (placeAll_ok _ [] entries ordered placing)⟩ never
    | error err =>
      obtain ⟨left,halted,_⟩ := placeAll_error _ [] entries err placing
      obtain ⟨entry,member⟩ := List.exists_mem_of_ne_nil left halted.some_left
      rw [halted_stuck halted,List.mem_filter,decide_eq_true_eq] at member
      exact ⟨entry,member⟩
  · rintro ⟨entry,member,stuck⟩ ⟨ordered,arranged⟩
    exact arrangement_not_stuck arranged entry member stuck

open scoped Classical in
/-- The names are those of the stuck entries, in order and each as often as it occurs. -/
structure ReportsStuck (entries : List ClassEntry) (names : List String) : Prop where
  sorted : names.Pairwise (· ≤ ·)
  exact : names.Perm ((entries.filter fun entry => Stuck entries entry).map (·.name))

theorem stuckNames_reports (entries : List ClassEntry) : ReportsStuck entries (stuckNames entries) := by
  refine ⟨?_,List.mergeSort_perm _ _⟩
  have sorted (names : List String) : names.mergeSort.Pairwise fun a b => decide (a ≤ b) = true :=
    List.pairwise_mergeSort (by simpa using fun a b c => String.le_trans) (by simpa using String.le_total) names
  simpa [stuckNames] using sorted _

theorem reports_mem_iff {entries : List ClassEntry} {names : List String} (reports : ReportsStuck entries names)
    (distinct : (entries.map (·.name)).Nodup) {entry : ClassEntry} (member : entry ∈ entries) :
    entry.name ∈ names ↔ Stuck entries entry := by
  classical
  rw [reports.exact.mem_iff,List.mem_map]
  constructor
  · rintro ⟨other,found,same⟩
    rw [List.mem_filter,decide_eq_true_eq] at found
    exact List.inj_on_of_nodup_map distinct found.1 member same ▸ found.2
  · intro stuck
    exact ⟨entry,List.mem_filter.mpr ⟨member,decide_eq_true stuck⟩,rfl⟩

theorem superclassCycle_iff {entries : List ClassEntry} (known : SuperclassesKnown entries)
    (names : List String) :
    inheritanceOrder entries = .error (.superclassCycle names) ↔
      (∃ entry ∈ entries, Stuck entries entry) ∧ stuckNames entries = names := by
  have clean := (superclassesKnown_iff entries).mp known
  rw [inheritanceOrder_error_iff,unarrangeable_iff_stuck,BuildError.superclassCycle.injEq]
  constructor
  · rintro (first | ⟨_,stuck,same⟩)
    · exact absurd first ((noFault_iff entries).mp clean _)
    · exact ⟨stuck,same⟩
  · exact fun report => .inr ⟨clean,report⟩

/-- A table whose superclasses are all known is refused for a cycle exactly when an entry is stuck, and the
    names of the stuck entries are reported. Where no name repeats, these are the entries whose
    superclasses go on without end, that is, the members of cycles and their descendants. -/
theorem superclassCycle_exact (entries : List ClassEntry) (known : SuperclassesKnown entries) :
    ((∃ names, inheritanceOrder entries = .error (.superclassCycle names)) ↔
      ∃ entry ∈ entries, Stuck entries entry) ∧
    (∀ names, inheritanceOrder entries = .error (.superclassCycle names) → ReportsStuck entries names) ∧
    ((entries.map (·.name)).Nodup →
      (∀ entry, (Stuck entries entry ↔ Endless entries entry) ∧
        (Stuck entries entry ↔ LeadsToCycle entries entry)) ∧
      ∀ names, inheritanceOrder entries = .error (.superclassCycle names) → ∀ entry ∈ entries,
        (entry.name ∈ names ↔ LeadsToCycle entries entry)) := by
  have reports (names : List String) (failed : inheritanceOrder entries = .error (.superclassCycle names)) :
      ReportsStuck entries names :=
    ((superclassCycle_iff known names).mp failed).2 ▸ stuckNames_reports entries
  refine ⟨?_,reports,?_⟩
  · constructor
    · rintro ⟨names,failed⟩
      exact ((superclassCycle_iff known names).mp failed).1
    · intro stuck
      exact ⟨_,(superclassCycle_iff known _).mpr ⟨stuck,rfl⟩⟩
  · intro distinct
    have around (entry : ClassEntry) : Stuck entries entry ↔ LeadsToCycle entries entry :=
      (stuck_iff_endless distinct entry).trans (endless_iff_leadsToCycle entries entry)
    refine ⟨fun entry => ⟨stuck_iff_endless distinct entry,around entry⟩,?_⟩
    intro names failed entry member
    exact (reports_mem_iff (reports names failed) distinct member).trans (around entry)

/-- A cycle of two classes with a class below it, and two classes apart from it. -/
def roundabout : List ClassEntry :=
  [{ name := "Way", superclass := some "Round" }, { name := "Round", superclass := some "About" },
   { name := "About", superclass := some "Round" }, { name := "String", superclass := some "Object" },
   { name := "Text", superclass := some "String" }]

theorem roundabout_cycle :
    ∃ names, inheritanceOrder roundabout = .error (.superclassCycle names) ∧ ReportsStuck roundabout names ∧
      "Way" ∈ names ∧ "Text" ∉ names := by
  have known : SuperclassesKnown roundabout := by
    simp [SuperclassesKnown,roundabout,ClassTable.names,ClassTable.builtin]
  obtain ⟨refused,reports,distinct⟩ := superclassCycle_exact roundabout known
  obtain ⟨around,named⟩ := distinct (by decide)
  have up : ParentEntry roundabout { name := "Round", superclass := some "About" }
      { name := "About", superclass := some "Round" } := ⟨by decide,rfl⟩
  have leads : LeadsToCycle roundabout { name := "Way", superclass := some "Round" } :=
    ⟨_,.single ⟨by decide,rfl⟩,.tail (.single up) ⟨by decide,rfl⟩⟩
  have placeable : Placeable roundabout "String" :=
    .outside (show ({ name := "String", superclass := some "Object" } : ClassEntry) ∈ roundabout by decide) rfl
      (by decide)
  obtain ⟨names,failed⟩ := refused.mpr ⟨_,by decide,(around _).2.mpr leads⟩
  refine ⟨names,failed,reports names failed,(named names failed _ (by decide)).mpr leads,?_⟩
  intro reported
  have leadsToo := (named names failed { name := "Text", superclass := some "String" } (by decide)).mp reported
  obtain ⟨_,given,_,never⟩ := (around _).2.mpr leadsToo
  cases given
  exact never placeable

end Nominal.Config
