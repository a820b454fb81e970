import Mathlib.Data.List.Chain
import Nominal.Proofs.SubtypeOrder

/-!
The walk up from a class, taken one step at a time without a bound on its length. It ends in every table:
where a class has no superclass, behind a position that the table does not hold, or where it comes back to
a class that it has met. The classes met are the ancestors of the class, and nothing that the links reach
is left out, also where the links lead into a circle that does not go through the class itself.
-/

namespace Nominal.ClassTable

/-- A walk under way: the class that it comes to next, if any, and those that it has met. -/
structure Ascent where
  next : Option ClassId
  seen : List ClassId

namespace Ascent

/-- A walk that sets out from a class. -/
def start (c : ClassId) : Ascent := ⟨some c,[]⟩

/-- One step: the class that is met, and the walk from there on. The walk is over where there is no next
    class and where the next class has been met before. -/
def step (t : ClassTable) (a : Ascent) : Option (ClassId × Ascent) :=
  match a.next with
  | none => none
  | some c => if c ∈ a.seen then none else some (c,⟨t.superclass? c,c :: a.seen⟩)

/-- Step by step the walk meets the classes of the list, and then it is over. -/
inductive Collects (t : ClassTable) : Ascent → List ClassId → Prop
  | ended {a : Ascent} : a.step t = none → Collects t a []
  | meet {a b : Ascent} {c : ClassId} {rest : List ClassId} : a.step t = some (c,b) → Collects t b rest →
      Collects t a (c :: rest)

section
variable {t : ClassTable} {a b : Ascent} {c : ClassId}

theorem step_iff : a.step t = some (c,b) ↔
    a.next = some c ∧ c ∉ a.seen ∧ b = ⟨t.superclass? c,c :: a.seen⟩ := by
  obtain ⟨next,seen⟩ := a
  cases next with
  | none => simp [step]
  | some d =>
    by_cases met : d ∈ seen
    · simp only [step,met,if_true,reduceCtorEq,Option.some.injEq,false_iff]
      rintro ⟨rfl,unseen,_⟩
      exact unseen met
    · simp only [step,met,if_false,Option.some.injEq,Prod.mk.injEq]
      constructor
      · rintro ⟨rfl,rfl⟩
        exact ⟨rfl,met,rfl⟩
      · rintro ⟨rfl,_,rfl⟩
        exact ⟨rfl,rfl⟩

theorem collects_unique {first second : List ClassId} (left : Collects t a first)
    (right : Collects t a second) : first = second := by
  induction left generalizing second with
  | ended stops =>
    cases right with
    | ended => rfl
    | meet goes => cases stops.symm.trans goes
  | meet goes _ ih =>
    cases right with
    | ended stops => cases stops.symm.trans goes
    | meet other later =>
      cases goes.symm.trans other
      rw [ih later]

/-- A walk meets no class twice, and none that it had met before. -/
theorem collects_distinct {walk : List ClassId} (collects : Collects t a walk) :
    walk.Nodup ∧ ∀ d ∈ walk, d ∉ a.seen := by
  induction collects with
  | ended => simp
  | meet goes _ ih =>
    obtain ⟨_,unseen,rfl⟩ := step_iff.mp goes
    obtain ⟨distinct,fresh⟩ := ih
    refine ⟨List.nodup_cons.mpr ⟨fun again => fresh _ again List.mem_cons_self,distinct⟩,?_⟩
    intro d member
    rcases List.mem_cons.mp member with rfl | later
    · exact unseen
    · exact fun earlier => fresh d later (List.mem_cons_of_mem _ earlier)

/-- A walk begins with its next class, and every class met is the superclass of the one before. -/
theorem collects_links {walk : List ClassId} (collects : Collects t a walk) :
    walk.IsChain t.Extends ∧ ∀ d ∈ walk.head?, a.next = some d := by
  induction collects with
  | ended => simp
  | @meet a b c rest goes _ ih =>
    obtain ⟨next,_,rfl⟩ := step_iff.mp goes
    obtain ⟨links,begins⟩ := ih
    refine ⟨List.isChain_cons.mpr ⟨?_,links⟩,by simpa using next⟩
    intro parent first
    exact (t.superclass_iff c parent).mp (begins parent first)

end

/-- The chain of a class is what the walk from there collects, however much it has seen. The bound on the
    length of the chain is not felt: as long as the walk goes on there are positions left. -/
theorem collects_chain {t : ClassTable} {fuel : Nat} {seen : List ClassId} (walk : Walk t fuel seen)
    (c : ClassId) : Collects t ⟨some c,seen⟩ (t.chain fuel seen c) := by
  induction fuel generalizing seen c with
  | zero => exact absurd (walk_fuel walk) (Nat.lt_irrefl 0)
  | succ fuel ih =>
    by_cases met : c ∈ seen
    · rw [chain,if_pos met]
      exact .ended (by simp [step,met])
    · rw [chain,if_neg met]
      refine .meet (step_iff.mpr ⟨rfl,met,rfl⟩) ?_
      cases up : t.superclass? c with
      | none => exact .ended rfl
      | some parent => exact ih (walk_next walk met ((t.superclass_iff c parent).mp up)) parent

/-- The walk from a class is over after its ancestors, and collects nothing else. -/
theorem collects_iff (t : ClassTable) (c : ClassId) (walk : List ClassId) :
    Collects t (start c) walk ↔ walk = t.ancestors c := by
  have ends : Collects t (start c) (t.ancestors c) := collects_chain t.walk_start c
  constructor
  · exact fun collects => collects_unique collects ends
  · rintro rfl
    exact ends

end Ascent

theorem length_chain_le (t : ClassTable) (fuel : Nat) (seen : List ClassId) (c : ClassId) :
    (t.chain fuel seen c).length ≤ fuel := by
  induction fuel generalizing seen c with
  | zero => simp [chain]
  | succ fuel ih =>
    rw [chain]
    split
    · simp
    · split
      · simp
      · exact Nat.succ_le_succ (ih _ _)

/-- Where each member of a list extends the one before, only the last can be without a superclass. -/
theorem last_of_isChain {t : ClassTable} {walk : List ClassId} (links : walk.IsChain t.Extends) {d : ClassId}
    (member : d ∈ walk) (top : ∀ parent, ¬ t.Extends d parent) : walk.getLast? = some d := by
  obtain ⟨before,after,rfl⟩ := List.append_of_mem member
  cases after with
  | nil => simp
  | cons parent after =>
    have link : t.Extends d parent := (List.isChain_append_cons_cons.mp links).2.1
    exact absurd link (top parent)

/-- The list is the way up from the class: it follows the links, meets no class twice and leaves out
    nothing that the links reach. -/
structure WayUp (t : ClassTable) (c : ClassId) (walk : List ClassId) : Prop where
  starts : walk.head? = some c
  links : walk.IsChain t.Extends
  distinct : walk.Nodup
  short : walk.length ≤ t.classes.length + 1
  reached : ∀ d, d ∈ walk ↔ t.Reaches c d
  /-- A position that the table does not hold ends the way. -/
  dangling : ∀ d ∈ walk, t.get? d = none → walk.getLast? = some d

theorem ancestors_wayUp (t : ClassTable) (c : ClassId) : t.WayUp c (t.ancestors c) := by
  have collects : Ascent.Collects t (.start c) (t.ancestors c) := (Ascent.collects_iff t c _).mpr rfl
  obtain ⟨links,_⟩ := Ascent.collects_links collects
  refine ⟨rfl,links,(Ascent.collects_distinct collects).1,t.length_chain_le _ _ c,t.mem_ancestors_iff c,?_⟩
  intro d member unknown
  refine last_of_isChain links member ?_
  rintro parent ⟨decl,held,_⟩
  cases unknown.symm.trans held

theorem isSubtype_object_iff (t : ClassTable) (c d : ClassId) :
    t.isSubtype (.object c) (.object d) ↔ t.Reaches c d := by
  rw [isSubtype_iff]
  constructor
  · intro below
    cases below with
    | refl => exact .refl
    | links path => exact path
  · exact .links

/-- The walk up from any class of any table comes to an end, with exactly the classes that the links reach.
    The subtype test on class types is reachability, so it is reflexive and transitive in every table. -/
theorem ancestorWalk_exact (t : ClassTable) :
    (∀ c, (∀ walk, Ascent.Collects t (.start c) walk ↔ walk = t.ancestors c) ∧ t.WayUp c (t.ancestors c)) ∧
      (∀ c d, t.isSubtype (.object c) (.object d) ↔ t.Reaches c d) ∧
      (∀ a, t.isSubtype a a) ∧
      ∀ low middle high, t.isSubtype low middle → t.isSubtype middle high → t.isSubtype low high := by
  refine ⟨?_,t.isSubtype_object_iff,?_,?_⟩
  · intro c
    exact ⟨Ascent.collects_iff t c,t.ancestors_wayUp c⟩
  · intro a
    exact (t.isSubtype_iff a a).mpr (.refl a)
  · simp only [isSubtype_iff]
    exact fun low middle high => below_trans

/-- Links from a class into a circle of two others, and from a class to a position that is not there. -/
def strayLinks : ClassTable :=
  { object := ⟨0⟩
    string := ⟨1⟩
    classes :=
      [⟨"Tail",some ⟨1⟩,[],[]⟩,⟨"Round",some ⟨2⟩,[],[]⟩,⟨"About",some ⟨1⟩,[],[]⟩,⟨"Loose",some ⟨9⟩,[],[]⟩] }

theorem strayLinks_walk :
    strayLinks.WayUp ⟨0⟩ [⟨0⟩,⟨1⟩,⟨2⟩] ∧ strayLinks.WayUp ⟨3⟩ [⟨3⟩,⟨9⟩] ∧ strayLinks.get? ⟨9⟩ = none ∧
      strayLinks.isSubtype (.object ⟨0⟩) (.object ⟨2⟩) ∧ strayLinks.isSubtype (.object ⟨2⟩) (.object ⟨1⟩) ∧
      strayLinks.isSubtype (.object ⟨0⟩) (.object ⟨1⟩) := by
  obtain ⟨walks,_,_,trans⟩ := ancestorWalk_exact strayLinks
  have up : strayLinks.isSubtype (.object ⟨0⟩) (.object ⟨2⟩) := by decide
  have round : strayLinks.isSubtype (.object ⟨2⟩) (.object ⟨1⟩) := by decide
  exact ⟨(walks ⟨0⟩).2,(walks ⟨3⟩).2,rfl,up,round,trans _ _ _ up round⟩

end Nominal.ClassTable
