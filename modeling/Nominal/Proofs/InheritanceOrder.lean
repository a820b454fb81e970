import Nominal.Config.Build
import Nominal.Proofs.Failure

/-!
The order in which the entries of a class table are registered. When every superclass is known, the
entries are put in an order that respects inheritance if there is one, whatever names repeat or refer
to each other. Otherwise the entries left over are those whose superclass can never be placed.
-/

namespace Nominal.Config

/-- The superclass of the entry is neither a name of the table nor a built-in class. -/
inductive Orphan (entries : List ClassEntry) : ClassEntry → BuildError → Prop
  | unknown {entry : ClassEntry} {name : String} : entry.superclass = some name →
      name ∉ entries.map (·.name) → name ≠ "Object" → name ≠ "String" →
      Orphan entries entry (.unknownSuperclass entry.name name)

/-- The entries in some order, in which each comes after an entry that bears the name of its
    superclass, when that is a name of the table. -/
def Arrangement (entries ordered : List ClassEntry) : Prop :=
  ordered.Perm entries ∧ ∀ before entry after, ordered = before ++ entry :: after →
    ∀ name, entry.superclass = some name → name ∈ entries.map (·.name) → name ∈ before.map (·.name)

/-- The names that can be placed: some entry of that name has no superclass, or one from outside the
    table, or one that can itself be placed. -/
inductive Placeable (entries : List ClassEntry) : String → Prop
  | root {entry : ClassEntry} : entry ∈ entries → entry.superclass = none → Placeable entries entry.name
  | outside {entry : ClassEntry} {name : String} : entry ∈ entries → entry.superclass = some name →
      name ∉ entries.map (·.name) → Placeable entries entry.name
  | after {entry : ClassEntry} {name : String} : entry ∈ entries → entry.superclass = some name →
      Placeable entries name → Placeable entries entry.name

/-- The superclass of the entry is a name of the table that cannot be placed. -/
def Stuck (entries : List ClassEntry) (entry : ClassEntry) : Prop :=
  ∃ name, entry.superclass = some name ∧ name ∈ entries.map (·.name) ∧ ¬ Placeable entries name

open scoped Classical in
/-- The names of the stuck entries, in order and each as often as it occurs. -/
noncomputable def stuckNames (entries : List ClassEntry) : List String :=
  ((entries.filter fun entry => Stuck entries entry).map (·.name)).mergeSort

/-! ### Entries one after another -/

/-- The superclass of the entry, if it is declared at all, has been placed. -/
def Ready (declared placed : List String) (entry : ClassEntry) : Prop :=
  ∀ name, entry.superclass = some name → name ∈ declared → name ∈ placed

/-- Each entry is ready once those before it are placed. -/
def Sequenced (declared : List String) : (placed : List String) → List ClassEntry → Prop
  | _, [] => True
  | placed, entry :: rest => Ready declared placed entry ∧ Sequenced declared (entry.name :: placed) rest

section
variable {declared placed more : List String}

theorem isReady_iff (entry : ClassEntry) :
    isReady declared placed entry = true ↔ Ready declared placed entry := by
  unfold isReady Ready
  cases entry.superclass with
  | none => simp
  | some name =>
    by_cases known : name ∈ declared
    · simp [known]
    · simp [known]

theorem sequenced_mono (subset : placed ⊆ more) (entries : List ClassEntry)
    (sequenced : Sequenced declared placed entries) : Sequenced declared more entries := by
  induction entries generalizing placed more with
  | nil => trivial
  | cons entry rest ih =>
    obtain ⟨ready,later⟩ := sequenced
    refine ⟨fun name given known => subset (ready name given known),?_⟩
    exact ih (List.cons_subset_cons entry.name subset) later

theorem sequenced_append (first second : List ClassEntry) :
    Sequenced declared placed (first ++ second) ↔
      Sequenced declared placed first ∧ Sequenced declared (first.map (·.name) ++ placed) second := by
  induction first generalizing placed with
  | nil => simp [Sequenced]
  | cons entry first ih =>
    have same : (first.map (·.name) ++ entry.name :: placed).Perm ((entry :: first).map (·.name) ++ placed) :=
      List.perm_middle
    simp only [List.cons_append,Sequenced,ih,and_assoc]
    constructor
    · rintro ⟨ready,left,right⟩
      exact ⟨ready,left,sequenced_mono same.subset second right⟩
    · rintro ⟨ready,left,right⟩
      exact ⟨ready,left,sequenced_mono same.symm.subset second right⟩

theorem sequenced_iff (entries : List ClassEntry) :
    Sequenced declared placed entries ↔ ∀ before entry after, entries = before ++ entry :: after →
      Ready declared (before.map (·.name) ++ placed) entry := by
  constructor
  · rintro sequenced before entry after rfl
    exact ((sequenced_append before (entry :: after)).mp sequenced).2.1
  · intro ready
    induction entries generalizing placed with
    | nil => trivial
    | cons entry rest ih =>
      refine ⟨ready [] entry rest rfl,ih ?_⟩
      rintro before other after rfl name given known
      exact List.perm_middle.mem_iff.mpr (ready (entry :: before) other after rfl name given known)

end

theorem arrangement_iff (entries ordered : List ClassEntry) :
    Arrangement entries ordered ↔
      ordered.Perm entries ∧ Sequenced (entries.map (·.name)) [] ordered := by
  simp [Arrangement,sequenced_iff,Ready]

/-! ### One pass -/

section
variable (declared placed : List String) (entries : List ClassEntry)

theorem placeReady_perm :
    ((placeReady declared placed entries).1 ++ (placeReady declared placed entries).2).Perm entries := by
  induction entries generalizing placed with
  | nil => exact .nil
  | cons entry rest ih =>
    rw [placeReady]
    split
    · exact (ih (entry.name :: placed)).cons entry
    · exact List.perm_middle.trans ((ih placed).cons entry)

theorem placeReady_sequenced : Sequenced declared placed (placeReady declared placed entries).1 := by
  induction entries generalizing placed with
  | nil => trivial
  | cons entry rest ih =>
    rw [placeReady]
    split
    · rename_i ready
      exact ⟨(isReady_iff entry).mp ready,ih (entry.name :: placed)⟩
    · exact ih placed

theorem placeReady_sublist : (placeReady declared placed entries).2.Sublist entries := by
  induction entries generalizing placed with
  | nil => exact List.Sublist.refl []
  | cons entry rest ih =>
    rw [placeReady]
    split
    · exact (ih (entry.name :: placed)).cons entry
    · exact (ih placed).cons_cons entry

/-- A pass that places nothing has found no entry ready. -/
theorem placeReady_nothing (nothing : (placeReady declared placed entries).1 = []) :
    (placeReady declared placed entries).2 = entries ∧ ∀ entry ∈ entries, ¬ Ready declared placed entry := by
  induction entries with
  | nil => simp [placeReady]
  | cons entry rest ih =>
    rw [placeReady] at nothing ⊢
    split at nothing
    · cases nothing
    · rename_i unready
      obtain ⟨same,others⟩ := ih nothing
      simp only [unready]
      refine ⟨congrArg (entry :: ·) same,?_⟩
      intro other member
      rcases List.mem_cons.mp member with rfl | later
      · exact fun ready => unready ((isReady_iff other).mpr ready)
      · exact others other later

end

/-! ### All passes -/

/-- What is left when a pass places nothing: a part of the entries, of which none is ready after the
    others have been placed in turn. -/
structure Halted (declared placed : List String) (waiting stuck : List ClassEntry) : Prop where
  some_left : stuck ≠ []
  part : stuck.Sublist waiting
  rest : ∃ done, (done ++ stuck).Perm waiting ∧ Sequenced declared placed done ∧
    ∀ entry ∈ stuck, ¬ Ready declared (done.map (·.name) ++ placed) entry

theorem placeAll_ok (declared placed : List String) (waiting ordered : List ClassEntry)
    (finished : placeAll declared placed waiting = .ok ordered) :
    ordered.Perm waiting ∧ Sequenced declared placed ordered := by
  fun_induction placeAll declared placed waiting generalizing ordered with
  | case1 placed =>
    cases finished
    exact ⟨.nil,trivial⟩
  | case2 placed waiting pass some_waiting nothing => cases finished
  | case3 placed waiting pass some_waiting progress ih =>
    obtain ⟨later,continued,joined⟩ := (bind_ok_iff _ _ _).mp finished
    cases joined
    obtain ⟨perm,sequenced⟩ := ih later continued
    refine ⟨(perm.append_left pass.1).trans (placeReady_perm declared placed waiting),?_⟩
    exact (sequenced_append pass.1 later).mpr ⟨placeReady_sequenced declared placed waiting,sequenced⟩

theorem placeAll_error (declared placed : List String) (waiting : List ClassEntry) (err : BuildError)
    (failed : placeAll declared placed waiting = .error err) :
    ∃ stuck, Halted declared placed waiting stuck ∧
      err = .superclassCycle (stuck.map (·.name)).mergeSort := by
  fun_induction placeAll declared placed waiting with
  | case1 placed => cases failed
  | case2 placed waiting pass some_waiting nothing =>
    obtain ⟨same,unready⟩ := placeReady_nothing declared placed waiting nothing
    cases failed
    refine ⟨waiting,⟨some_waiting,List.Sublist.refl waiting,[],.refl _,trivial,?_⟩,?_⟩
    · simpa using unready
    · rw [same]
  | case3 placed waiting pass some_waiting progress ih =>
    rcases (bind_error_iff _ _ _).mp failed with continued | ⟨_,_,impossible⟩
    · obtain ⟨stuck,⟨some_left,part,done,perm,sequenced,unready⟩,rfl⟩ := ih continued
      have whole := placeReady_perm declared placed waiting
      refine ⟨stuck,⟨some_left,part.trans (placeReady_sublist declared placed waiting),
        pass.1 ++ done,?_,?_,?_⟩,rfl⟩
      · rw [List.append_assoc]
        exact (perm.append_left pass.1).trans whole
      · exact (sequenced_append pass.1 done).mpr ⟨placeReady_sequenced declared placed waiting,sequenced⟩
      · intro entry member ready
        refine unready entry member fun name given known => ?_
        have placed_name := ready name given known
        simp only [List.map_append,List.mem_append] at placed_name ⊢
        rcases placed_name with (earlier | later) | before
        · exact .inr (.inl earlier)
        · exact .inl later
        · exact .inr (.inr before)
    · exact absurd impossible (pure_not_error _ _)

/-! ### What is left over -/

section
variable {entries : List ClassEntry}

/-- Entries placed in turn bear names that can be placed, and none of them is stuck. -/
theorem sequenced_placeable {placed : List String} {done : List ClassEntry}
    (sequenced : Sequenced (entries.map (·.name)) placed done) (inside : done ⊆ entries)
    (before : ∀ name ∈ placed, Placeable entries name) :
    ∀ entry ∈ done, Placeable entries entry.name ∧ ¬ Stuck entries entry := by
  induction done generalizing placed with
  | nil => simp
  | cons entry rest ih =>
    obtain ⟨ready,later⟩ := sequenced
    have member : entry ∈ entries := inside List.mem_cons_self
    have first : Placeable entries entry.name := by
      cases given : entry.superclass with
      | none => exact .root member given
      | some name =>
        by_cases known : name ∈ entries.map (·.name)
        · exact .after member given (before name (ready name given known))
        · exact .outside member given known
    have free : ¬ Stuck entries entry := by
      rintro ⟨name,given,known,never⟩
      exact never (before name (ready name given known))
    have placed_first : ∀ name ∈ entry.name :: placed, Placeable entries name := by
      intro name found
      rcases List.mem_cons.mp found with rfl | earlier
      · exact first
      · exact before name earlier
    intro other found
    rcases List.mem_cons.mp found with rfl | further
    · exact ⟨first,free⟩
    · exact ih later (fun _ within => inside (List.mem_cons_of_mem _ within)) placed_first other further

theorem arrangement_not_stuck {ordered : List ClassEntry} (arranged : Arrangement entries ordered) :
    ∀ entry ∈ entries, ¬ Stuck entries entry := by
  obtain ⟨perm,sequenced⟩ := (arrangement_iff entries ordered).mp arranged
  intro entry member
  exact (sequenced_placeable sequenced perm.subset (by simp) entry (perm.mem_iff.mpr member)).2

/-- A name that can be placed has been placed by the time nothing more is ready. -/
theorem placeable_placed {done stuck : List ClassEntry} (perm : (done ++ stuck).Perm entries)
    (unready : ∀ entry ∈ stuck, ¬ Ready (entries.map (·.name)) (done.map (·.name)) entry)
    {name : String} (placeable : Placeable entries name) : name ∈ done.map (·.name) := by
  have placed (entry : ClassEntry) (member : entry ∈ entries)
      (ready : Ready (entries.map (·.name)) (done.map (·.name)) entry) :
      entry.name ∈ done.map (·.name) := by
    rcases List.mem_append.mp (perm.mem_iff.mpr member) with early | late
    · exact List.mem_map_of_mem early
    · exact absurd ready (unready entry late)
  induction placeable with
  | @root entry member given =>
    refine placed entry member fun name other => ?_
    rw [given] at other
    cases other
  | @outside entry name member given unknown =>
    refine placed entry member fun other same known => ?_
    rw [given] at same
    cases same
    exact absurd known unknown
  | @after entry name member given _ ih =>
    refine placed entry member fun other same _ => ?_
    rw [given] at same
    cases same
    exact ih

open scoped Classical in
/-- The entries left over are exactly the stuck ones. -/
theorem halted_stuck {stuck : List ClassEntry} (halted : Halted (entries.map (·.name)) [] entries stuck) :
    stuck = entries.filter fun entry => Stuck entries entry := by
  obtain ⟨_,part,done,perm,sequenced,unready⟩ := halted
  rw [List.append_nil] at unready
  have within : done ⊆ entries := fun entry member => perm.subset (List.mem_append_left _ member)
  have free : ∀ entry ∈ done, ¬ Stuck entries entry :=
    fun entry member => (sequenced_placeable sequenced within (by simp) entry member).2
  have left : ∀ entry ∈ stuck, Stuck entries entry := by
    intro entry member
    have waits := unready entry member
    simp only [Ready,not_forall] at waits
    obtain ⟨name,given,known,unplaced⟩ := waits
    exact ⟨name,given,known,fun placeable => unplaced (placeable_placed perm unready placeable)⟩
  have kept : stuck.filter (fun entry => Stuck entries entry) = stuck :=
    List.filter_eq_self.mpr fun entry member => decide_eq_true (left entry member)
  have dropped : done.filter (fun entry => Stuck entries entry) = [] :=
    List.filter_eq_nil_iff.mpr fun entry member => by simpa using free entry member
  have counted := (perm.filter fun entry => decide (Stuck entries entry)).length_eq
  rw [List.filter_append,kept,dropped,List.nil_append] at counted
  have smaller := part.filter fun entry => decide (Stuck entries entry)
  rw [kept] at smaller
  exact smaller.eq_of_length counted

end

/-! ### The order of a whole table -/

theorem find_builtin_iff (name : String) :
    (ClassTable.builtin.find? name).isSome ↔ name = "Object" ∨ name = "String" := by
  rw [ClassTable.find?,Option.isSome_map,List.findIdx?_isSome]
  simp only [ClassTable.builtin,List.any_cons,List.any_nil,Bool.or_false,Bool.or_eq_true,beq_iff_eq]
  exact or_congr eq_comm eq_comm

theorem orphan_iff (entries : List ClassEntry) (entry : ClassEntry) (err : BuildError) :
    (entry.superclass.bind fun name =>
      if (entries.map (·.name)).contains name || (ClassTable.builtin.find? name).isSome then none
      else some (.unknownSuperclass entry.name name)) = some err ↔ Orphan entries entry err := by
  rw [Option.bind_eq_some_iff]
  constructor
  · rintro ⟨name,given,found⟩
    split at found
    · cases found
    · rename_i unknown
      rw [Bool.or_eq_true,find_builtin_iff,List.contains_iff_mem] at unknown
      push Not at unknown
      cases found
      exact .unknown given unknown.1 unknown.2.1 unknown.2.2
  · rintro ⟨given,undeclared,not_object,not_string⟩
    refine ⟨_,given,?_⟩
    rw [if_neg]
    rw [Bool.or_eq_true,find_builtin_iff,List.contains_iff_mem]
    rintro (declared | rfl | rfl)
    · exact undeclared declared
    · exact not_object rfl
    · exact not_string rfl

theorem unknownSuperclass_iff (entries : List ClassEntry) (err : BuildError) :
    unknownSuperclass? (entries.map (·.name)) entries = some err ↔
      FirstFault (Orphan entries) entries err := by
  rw [unknownSuperclass?,findSome_iff]
  exact firstFault_congr (orphan_iff entries) entries err

theorem unknownSuperclass_none_iff (entries : List ClassEntry) :
    unknownSuperclass? (entries.map (·.name)) entries = none ↔ NoFault (Orphan entries) entries := by
  rw [noFault_iff,Option.eq_none_iff_forall_ne_some]
  exact forall_congr' fun err => not_congr (unknownSuperclass_iff entries err)

/-- An order that is found is an arrangement of the entries. -/
theorem inheritanceOrder_ok {entries ordered : List ClassEntry}
    (found : inheritanceOrder entries = .ok ordered) :
    NoFault (Orphan entries) entries ∧ Arrangement entries ordered := by
  simp only [inheritanceOrder] at found
  split at found
  · cases found
  · rename_i clean
    exact ⟨(unknownSuperclass_none_iff entries).mp clean,
      (arrangement_iff entries ordered).mpr (placeAll_ok _ [] entries ordered found)⟩

open scoped Classical in
private theorem halted_unarrangeable {entries stuck : List ClassEntry}
    (halted : Halted (entries.map (·.name)) [] entries stuck) :
    ¬ ∃ ordered, Arrangement entries ordered := by
  rintro ⟨ordered,arranged⟩
  obtain ⟨entry,member⟩ := List.exists_mem_of_ne_nil stuck halted.some_left
  rw [halted_stuck halted,List.mem_filter,decide_eq_true_eq] at member
  exact arrangement_not_stuck arranged entry member.1 member.2

/-- No order is found when some superclass is unknown, and otherwise when there is no arrangement. -/
theorem inheritanceOrder_error_iff (entries : List ClassEntry) (err : BuildError) :
    inheritanceOrder entries = .error err ↔ FirstFault (Orphan entries) entries err ∨
      (NoFault (Orphan entries) entries ∧ (¬ ∃ ordered, Arrangement entries ordered) ∧
        .superclassCycle (stuckNames entries) = err) := by
  rw [← unknownSuperclass_iff,← unknownSuperclass_none_iff]
  cases unknown : unknownSuperclass? (entries.map (·.name)) entries with
  | some found => simp [inheritanceOrder,unknown]
  | none =>
    simp only [inheritanceOrder,unknown,reduceCtorEq,false_or,true_and]
    cases placing : placeAll (entries.map (·.name)) [] entries with
    | ok ordered =>
      have arranged := (arrangement_iff entries ordered).mpr (placeAll_ok _ [] entries ordered placing)
      simp only [reduceCtorEq,false_iff]
      exact fun impossible => impossible.1 ⟨ordered,arranged⟩
    | error cycle =>
      obtain ⟨stuck,halted,rfl⟩ := placeAll_error _ [] entries cycle placing
      have names : (stuck.map (·.name)).mergeSort = stuckNames entries := by
        rw [stuckNames,← halted_stuck halted]
      rw [names,Except.error.injEq]
      exact ⟨fun same => ⟨halted_unarrangeable halted,same⟩,And.right⟩

/-- An order is found exactly when every superclass is known and there is an arrangement. -/
theorem inheritanceOrder_exists_iff (entries : List ClassEntry) :
    (∃ ordered, inheritanceOrder entries = .ok ordered) ↔
      NoFault (Orphan entries) entries ∧ ∃ ordered, Arrangement entries ordered := by
  constructor
  · rintro ⟨ordered,found⟩
    exact ⟨(inheritanceOrder_ok found).1,ordered,(inheritanceOrder_ok found).2⟩
  · rintro ⟨clean,arranged⟩
    cases found : inheritanceOrder entries with
    | ok ordered => exact ⟨ordered,rfl⟩
    | error err =>
      rcases (inheritanceOrder_error_iff entries err).mp found with first | ⟨_,never,_⟩
      · exact absurd first ((noFault_iff entries).mp clean err)
      · exact absurd arranged never

end Nominal.Config
