import Mathlib.Logic.Relation
import Nominal.Inheritance

/-!
Subtyping and inheritance as relations over the superclass links of a table, and the functions that
decide them. No table is excluded: links may form cycles or lead to positions that the table does not
hold. The walk up from a class meets exactly the classes that its links reach, so the subtype test and
the method search are exact everywhere.
-/

namespace Nominal.ClassTable

/-- The first class is in the table and records the second as its superclass. -/
def Extends (t : ClassTable) (c parent : ClassId) : Prop :=
  ∃ d, t.get? c = some d ∧ d.superclass = some parent

/-- Zero or more superclass links lead from the first class to the second. -/
def Reaches (t : ClassTable) : ClassId → ClassId → Prop := Relation.ReflTransGen t.Extends

/-- The subtype relation. Every type is below itself, null is below every class type, and a class is
    below the classes that its superclass links reach. -/
inductive Below (t : ClassTable) : Ty → Ty → Prop
  | refl (type : Ty) : Below t type type
  | null (c : ClassId) : Below t .null (.object c)
  | links {c d : ClassId} : t.Reaches c d → Below t (.object c) (.object d)

/-- The class is in the table and the method is its first one of that name. -/
def Declares (t : ClassTable) (c : ClassId) (name : String) (m : Method) : Prop :=
  ∃ d before after, t.get? c = some d ∧ d.methods = before ++ m :: after ∧ m.name = name ∧
    ∀ prior ∈ before, prior.name ≠ name

/-- The method is declared on the nearest class, going up the superclass links, that declares one of
    that name. -/
inductive Inherits (t : ClassTable) (name : String) : ClassId → Method → Prop
  | own {c : ClassId} {m : Method} : t.Declares c name m → Inherits t name c m
  | up {c parent : ClassId} {m : Method} : (∀ other, ¬ t.Declares c name other) → t.Extends c parent →
      Inherits t name parent m → Inherits t name c m

theorem superclass_iff (t : ClassTable) (c parent : ClassId) :
    t.superclass? c = some parent ↔ t.Extends c parent := by
  simp [superclass?,Extends,Option.bind_eq_some_iff]

theorem declared_iff (t : ClassTable) (c : ClassId) (name : String) (m : Method) :
    t.declared? c name = some m ↔ t.Declares c name m := by
  simp only [declared?,Option.bind_eq_some_iff,ClassDecl.declared?,List.find?_eq_some_iff_append,Declares]
  constructor
  · rintro ⟨d,known,named,before,after,split,prior⟩
    exact ⟨d,before,after,known,split,by simpa using named,by simpa using prior⟩
  · rintro ⟨d,before,after,known,split,named,prior⟩
    exact ⟨d,known,by simpa using named,before,after,split,by simpa using prior⟩

theorem declared_none_iff (t : ClassTable) (c : ClassId) (name : String) :
    t.declared? c name = none ↔ ∀ m, ¬ t.Declares c name m := by
  rw [Option.eq_none_iff_forall_ne_some]
  exact forall_congr' fun m => not_congr (t.declared_iff c name m)

/-- A class that records a superclass is held by the table. -/
theorem extends_inside {t : ClassTable} {c parent : ClassId} (link : t.Extends c parent) :
    c.index < t.classes.length := by
  obtain ⟨d,known,_⟩ := link
  exact (List.getElem?_eq_some_iff.mp known).1

theorem extends_unique {t : ClassTable} {c left right : ClassId} (first : t.Extends c left)
    (second : t.Extends c right) : left = right := by
  rw [← superclass_iff] at first second
  exact Option.some.inj (first.symm.trans second)

/-- The walk goes along the links only. -/
private theorem chain_reaches (t : ClassTable) (fuel : Nat) (seen : List ClassId) (c d : ClassId)
    (member : d ∈ t.chain fuel seen c) : t.Reaches c d := by
  induction fuel generalizing seen c with
  | zero => simp [chain] at member
  | succ fuel ih =>
    rw [chain] at member
    split at member
    · simp at member
    · rcases List.mem_cons.mp member with rfl | later
      · exact .refl
      · split at later
        · simp at later
        · rename_i parent found
          exact .head ((t.superclass_iff c parent).mp found) (ih (c :: seen) parent later)

/-- What the walk has met before it comes to the next class: distinct classes of the table, and as
    many steps left as there are further positions, and one more for a class outside the table. -/
structure Walk (t : ClassTable) (fuel : Nat) (seen : List ClassId) : Prop where
  distinct : seen.Nodup
  inside : ∀ c ∈ seen, c.index < t.classes.length
  enough : t.classes.length + 1 ≤ fuel + seen.length

theorem walk_fuel {t : ClassTable} {fuel : Nat} {seen : List ClassId} (walk : Walk t fuel seen) :
    0 < fuel := by
  have bounded : seen.length ≤ ((List.range t.classes.length).map ClassId.mk).length := by
    apply walk.distinct.length_le_of_subset
    intro c met
    exact List.mem_map.mpr ⟨c.index,List.mem_range.mpr (walk.inside c met),rfl⟩
  have enough := walk.enough
  simp only [List.length_map,List.length_range] at bounded
  omega

theorem walk_next {t : ClassTable} {fuel : Nat} {seen : List ClassId} {c parent : ClassId}
    (walk : Walk t (fuel + 1) seen) (unseen : c ∉ seen) (link : t.Extends c parent) :
    Walk t fuel (c :: seen) := by
  refine ⟨List.nodup_cons.mpr ⟨unseen,walk.distinct⟩,?_,?_⟩
  · intro met member
    rcases List.mem_cons.mp member with rfl | earlier
    · exact extends_inside link
    · exact walk.inside met earlier
  · have enough := walk.enough
    simp only [List.length_cons]
    omega

private theorem chain_head {t : ClassTable} {fuel : Nat} {seen : List ClassId} (walk : Walk t fuel seen)
    (c : ClassId) : c ∈ t.chain fuel seen c ∨ c ∈ seen := by
  cases fuel with
  | zero => exact absurd (walk_fuel walk) (Nat.lt_irrefl 0)
  | succ fuel =>
    rw [chain]
    split
    · exact .inr ‹_›
    · exact .inl List.mem_cons_self

/-- The classes met are closed under superclass links. The walk may stop at a class that it has met
    before, but then that class and what follows it are among those met. -/
private theorem chain_closed (t : ClassTable) (fuel : Nat) (seen : List ClassId) (c : ClassId)
    (walk : Walk t fuel seen) (d parent : ClassId) (member : d ∈ t.chain fuel seen c)
    (link : t.Extends d parent) : parent ∈ t.chain fuel seen c ∨ parent ∈ seen := by
  induction fuel generalizing seen c with
  | zero => simp [chain] at member
  | succ fuel ih =>
    by_cases met : c ∈ seen
    · simp [chain,met] at member
    · cases up : t.superclass? c with
      | none =>
        simp only [chain,met,up,if_false,List.mem_singleton] at member
        subst member
        rw [(t.superclass_iff d parent).mpr link] at up
        cases up
      | some next =>
        simp only [chain,met,up,if_false,List.mem_cons] at member ⊢
        have found := (t.superclass_iff c next).mp up
        have further : Walk t fuel (c :: seen) := walk_next walk met found
        have later : parent ∈ t.chain fuel (c :: seen) next ∨ parent ∈ c :: seen := by
          rcases member with rfl | member
          · exact extends_unique found link ▸ chain_head further next
          · exact ih (c :: seen) next further member
        rcases later with later | earlier
        · exact .inl (.inr later)
        · rcases List.mem_cons.mp earlier with same | before
          · exact .inl (.inl same)
          · exact .inr before

theorem walk_start (t : ClassTable) : Walk t (t.classes.length + 1) [] :=
  ⟨List.nodup_nil,by simp,by simp⟩

/-- The superclass chain of a class holds exactly the classes that its links reach. -/
theorem mem_ancestors_iff (t : ClassTable) (c d : ClassId) : d ∈ t.ancestors c ↔ t.Reaches c d := by
  constructor
  · exact t.chain_reaches _ [] c d
  · intro path
    induction path with
    | refl => simpa [ancestors] using chain_head t.walk_start c
    | @tail d parent _ link ih =>
      simpa [ancestors] using t.chain_closed _ [] c t.walk_start d parent ih link

/-- The subtype test decides the subtype relation. -/
theorem isSubtype_iff (t : ClassTable) (sub sup : Ty) : t.isSubtype sub sup = true ↔ t.Below sub sup := by
  constructor
  · intro accepted
    rcases Bool.or_eq_true_iff.mp accepted with same | related
    · rw [beq_iff_eq.mp same]
      exact .refl sup
    · split at related
      · exact .null _
      · exact .links ((t.mem_ancestors_iff _ _).mp (List.contains_iff_mem.mp related))
      · cases related
  · intro below
    cases below with
    | refl => simp [isSubtype]
    | null c => simp [isSubtype]
    | links path => simp [isSubtype,(t.mem_ancestors_iff _ _).mpr path]

/-- At most one method of a name is inherited, also where the links go round in a circle. -/
theorem inherits_unique {t : ClassTable} {name : String} {c : ClassId} {left right : Method}
    (first : t.Inherits name c left) (second : t.Inherits name c right) : left = right := by
  induction first with
  | own declared =>
    cases second with
    | own other =>
      rw [← declared_iff] at declared other
      exact Option.some.inj (declared.symm.trans other)
    | up nothing => exact absurd declared (nothing _)
  | up nothing link _ ih =>
    cases second with
    | own other => exact absurd other (nothing _)
    | up _ other inherited => exact ih (extends_unique other link ▸ inherited)

/-- An inherited method is declared by some class that the links reach. -/
private theorem inherits_declared {t : ClassTable} {name : String} {c : ClassId} {m : Method}
    (inherited : t.Inherits name c m) : ∃ d, t.Reaches c d ∧ t.Declares d name m := by
  induction inherited with
  | own declared => exact ⟨_,.refl,declared⟩
  | up _ link _ ih =>
    obtain ⟨d,path,declared⟩ := ih
    exact ⟨d,.head link path,declared⟩

private theorem chain_inherits (t : ClassTable) (name : String) (m : Method) (fuel : Nat)
    (seen : List ClassId) (c : ClassId)
    (found : (t.chain fuel seen c).findSome? (t.declared? · name) = some m) : t.Inherits name c m := by
  induction fuel generalizing seen c with
  | zero => simp [chain] at found
  | succ fuel ih =>
    by_cases met : c ∈ seen
    · simp [chain,met] at found
    · cases own : t.declared? c name with
      | some other =>
        have same : other = m := by simpa [chain,met,own] using found
        exact .own ((t.declared_iff c name m).mp (same ▸ own))
      | none =>
        cases up : t.superclass? c with
        | none => simp [chain,met,own,up] at found
        | some parent =>
          have later : (t.chain fuel (c :: seen) parent).findSome? (t.declared? · name) = some m := by
            simpa [chain,met,own,up] using found
          exact .up ((t.declared_none_iff c name).mp own) ((t.superclass_iff c parent).mp up)
            (ih (c :: seen) parent later)

/-- The search along the chain finds exactly the inherited method. -/
theorem search_iff (t : ClassTable) (c : ClassId) (name : String) (m : Method) :
    (t.ancestors c).findSome? (t.declared? · name) = some m ↔ t.Inherits name c m := by
  constructor
  · exact t.chain_inherits name m _ [] c
  · intro inherited
    obtain ⟨d,path,declared⟩ := inherits_declared inherited
    -- Something is found, since a class on the chain declares the name; it is inherited as well.
    have some_found : ((t.ancestors c).findSome? (t.declared? · name)).isSome := by
      rw [List.findSome?_isSome_iff]
      exact ⟨d,(t.mem_ancestors_iff c d).mpr path,by rw [(t.declared_iff d name m).mpr declared]; rfl⟩
    obtain ⟨other,found⟩ := Option.isSome_iff_exists.mp some_found
    rw [found,inherits_unique (t.chain_inherits name other _ [] c found) inherited]

/-- A look-up gives the method that the receiver's class inherits. -/
theorem lookupMethod_ok_iff (t : ClassTable) (receiver : Ty) (name : String) (m : Method) :
    t.lookupMethod receiver name = .ok m ↔ ∃ c, receiver = .object c ∧ t.Inherits name c m := by
  cases receiver with
  | object c =>
    simp only [Ty.object.injEq,exists_eq_left',← t.search_iff c name m]
    cases found : (t.ancestors c).findSome? (t.declared? · name) with
    | none => simp [lookupMethod,found]
    | some other => simp [lookupMethod,found]
  | primitive p => simp [lookupMethod]
  | null => simp [lookupMethod]

private theorem lookupMethod_failure {t : ClassTable} {receiver : Ty} {name : String} {err : TypeError}
    (failed : t.lookupMethod receiver name = .error err) : .noSuchMethod receiver name = err := by
  unfold lookupMethod at failed
  split at failed
  · split at failed
    · cases failed
    · exact Except.error.inj failed
  · exact Except.error.inj failed

/-- A look-up fails exactly when nothing of that name is inherited. Types that are not class types
    inherit nothing. -/
theorem lookupMethod_error_iff (t : ClassTable) (receiver : Ty) (name : String) (err : TypeError) :
    t.lookupMethod receiver name = .error err ↔
      (¬ ∃ c m, receiver = .object c ∧ t.Inherits name c m) ∧ .noSuchMethod receiver name = err := by
  constructor
  · intro failed
    refine ⟨?_,lookupMethod_failure failed⟩
    rintro ⟨c,m,same,inherited⟩
    rw [(t.lookupMethod_ok_iff receiver name m).mpr ⟨c,same,inherited⟩] at failed
    cases failed
  · rintro ⟨nothing,rfl⟩
    cases found : t.lookupMethod receiver name with
    | ok m =>
      obtain ⟨c,same,inherited⟩ := (t.lookupMethod_ok_iff receiver name m).mp found
      exact absurd ⟨c,m,same,inherited⟩ nothing
    | error other => rw [lookupMethod_failure found]

/-- A type has a constructor exactly when it is a class of the table. -/
theorem constructor_iff (t : ClassTable) (target : Ty) (params : List Ty) :
    t.constructor? target = some params ↔
      ∃ c d, target = .object c ∧ t.get? c = some d ∧ d.constructor = params := by
  cases target with
  | object c => simp [constructor?]
  | primitive p => simp [constructor?]
  | null => simp [constructor?]

end Nominal.ClassTable
