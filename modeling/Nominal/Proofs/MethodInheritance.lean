import Nominal.Proofs.MethodAddition

/-!
Methods along subtyping. The search from a class goes the way of the search from any class above it, once it
has come there: a class that declares nothing inherits what its superclass inherits, so the classes on the way
add nothing and take nothing away. Where links go round in a circle the two searches end at different classes,
but what one of them visits last the other has visited first, and found nothing there.
-/

namespace Nominal.ClassTable

/-- Two look-ups of a name agree: they give the same method, or each finds none and names its own receiver. -/
def LookupsAgree (t : ClassTable) (name : String) (left right : Ty) : Prop :=
  (∃ m, t.lookupMethod left name = .ok m ∧ t.lookupMethod right name = .ok m) ∨
    (t.lookupMethod left name = .error (.noSuchMethod left name) ∧
      t.lookupMethod right name = .error (.noSuchMethod right name))

/-- Some class before the given one on the chain of the receiver declares the name, and the first of them
    declares this method. -/
def CoveredBy (t : ClassTable) (d : ClassId) (name : String) (receiver : ClassId) (m : Method) : Prop :=
  ∃ before e between after, t.ancestors receiver = before ++ e :: (between ++ d :: after) ∧
    (∀ prior ∈ before, t.declared? prior name = none) ∧ t.declared? e name = some m

section
variable {t : ClassTable} {name : String} {c d : ClassId}

/-! ### From a class to the next -/

/-- A class that does not declare the name inherits what its superclass inherits. -/
theorem inherits_parent_iff {parent : ClassId} (bare : t.declared? c name = none) (link : t.Extends c parent)
    (m : Method) : t.Inherits name c m ↔ t.Inherits name parent m := by
  have nothing := (t.declared_none_iff c name).mp bare
  constructor
  · intro inherited
    cases inherited with
    | own declared => exact absurd declared (nothing m)
    | up _ other further => exact extends_unique other link ▸ further
  · exact .up nothing link

/-- Classes on the way that do not declare the name are passed without effect. -/
theorem inherits_past_iff {before after : List ClassId} (links : (before ++ d :: after).IsChain t.Extends)
    (starts : (before ++ d :: after).head? = some c) (bare : ∀ e ∈ before, t.declared? e name = none)
    (m : Method) : t.Inherits name c m ↔ t.Inherits name d m := by
  induction before generalizing c with
  | nil =>
    cases starts
    rfl
  | cons first rest ih =>
    cases starts
    rw [List.forall_mem_cons] at bare
    rw [List.cons_append,List.isChain_cons] at links
    obtain ⟨next,begins⟩ : ∃ next, (rest ++ d :: after).head? = some next := by
      cases rest with
      | nil => exact ⟨d,rfl⟩
      | cons second _ => exact ⟨second,rfl⟩
    exact (inherits_parent_iff bare.1 (links.1 next begins) m).trans (ih links.2 begins bare.2)

/-- A search that comes to a class finds what the search from there finds. -/
theorem inherits_uncovered_iff (uncovered : t.Uncovered d name (.object c)) (m : Method) :
    t.Inherits name c m ↔ t.Inherits name d m := by
  obtain ⟨r,before,after,same,chain,bare⟩ := uncovered
  cases same
  obtain ⟨starts,links,_⟩ := t.ancestors_wayUp c
  rw [chain] at starts links
  exact inherits_past_iff links starts bare m

/-! ### Look-ups from a class and from one above it -/

/-- On the way to a class above, the search either comes there or stops before. -/
theorem uncovered_or_covered (path : t.Reaches c d) (name : String) :
    t.Uncovered d name (.object c) ∨ ∃ m, t.CoveredBy d name c m := by
  obtain ⟨before,after,chain⟩ := List.append_of_mem ((t.mem_ancestors_iff c d).mpr path)
  cases found : before.findSome? (t.declared? · name) with
  | none =>
    rw [List.findSome?_eq_none_iff] at found
    exact .inl ⟨c,before,after,rfl,chain,found⟩
  | some m =>
    obtain ⟨early,e,between,rfl,declared,bare⟩ := List.findSome?_eq_some_iff.mp found
    exact .inr ⟨m,early,e,between,after,by simpa using chain,bare,declared⟩

theorem lookupMethod_object_iff (m : Method) :
    t.lookupMethod (.object c) name = .ok m ↔ t.Inherits name c m := by
  simp [lookupMethod_ok_iff]

theorem lookupMethod_coveredBy {m : Method} (covered : t.CoveredBy d name c m) :
    t.lookupMethod (.object c) name = .ok m := by
  obtain ⟨before,e,between,after,chain,bare,declared⟩ := covered
  have stops : t.Uncovered e name (.object c) := ⟨c,before,between ++ d :: after,rfl,chain,bare⟩
  have own : t.Inherits name e m := .own ((t.declared_iff e name m).mp declared)
  exact (lookupMethod_object_iff m).mpr ((inherits_uncovered_iff stops m).mpr own)

theorem lookupsAgree_uncovered (uncovered : t.Uncovered d name (.object c)) :
    t.LookupsAgree name (.object c) (.object d) := by
  by_cases found : ∃ m, t.Inherits name d m
  · obtain ⟨m,inherited⟩ := found
    exact .inl ⟨m,(lookupMethod_object_iff m).mpr ((inherits_uncovered_iff uncovered m).mpr inherited),
      (lookupMethod_object_iff m).mpr inherited⟩
  · have lost : ¬ ∃ m, t.Inherits name c m := by
      rintro ⟨m,inherited⟩
      exact found ⟨m,(inherits_uncovered_iff uncovered m).mp inherited⟩
    refine .inr ⟨?_,?_⟩
    · exact (t.lookupMethod_error_iff _ name _).mpr ⟨by simpa using lost,rfl⟩
    · exact (t.lookupMethod_error_iff _ name _).mpr ⟨by simpa using found,rfl⟩

end

/-- Methods are inherited along subtyping, in any table. What a class has, its subclasses have; and if no class
    that comes before it on the chain of the subclass declares the name, both have the same. Otherwise the
    subclass has the method of the first class that does. -/
theorem lookupMethod_inherited (t : ClassTable) (c d : ClassId) (name : String)
    (below : t.isSubtype (.object c) (.object d)) :
    ((∃ m, t.lookupMethod (.object d) name = .ok m) → ∃ m, t.lookupMethod (.object c) name = .ok m) ∧
      (t.Uncovered d name (.object c) → t.LookupsAgree name (.object c) (.object d)) ∧
      (¬ t.Uncovered d name (.object c) →
        ∃ m, t.CoveredBy d name c m ∧ t.lookupMethod (.object c) name = .ok m) := by
  have way := uncovered_or_covered ((t.isSubtype_object_iff c d).mp below) name
  refine ⟨?_,lookupsAgree_uncovered,?_⟩
  · rintro ⟨m,found⟩
    rcases way with uncovered | ⟨other,covered⟩
    · rw [lookupMethod_object_iff,← inherits_uncovered_iff uncovered,← lookupMethod_object_iff] at found
      exact ⟨m,found⟩
    · exact ⟨other,lookupMethod_coveredBy covered⟩
  · intro stopped
    obtain ⟨m,covered⟩ := way.resolve_left stopped
    exact ⟨m,covered,lookupMethod_coveredBy covered⟩

/-- Three classes in a circle. -/
def carousel : ClassTable :=
  { object := ⟨0⟩
    string := ⟨0⟩
    classes :=
      [⟨"Horse",some ⟨1⟩,[],[]⟩,
       ⟨"Swan",some ⟨2⟩,[⟨"halt",[],.primitive .void⟩],[]⟩,
       ⟨"Coach",some ⟨0⟩,[⟨"turn",[],.primitive .int⟩],[]⟩] }

theorem carousel_inherited :
    carousel.ancestors ⟨0⟩ = [⟨0⟩,⟨1⟩,⟨2⟩] ∧ carousel.ancestors ⟨1⟩ = [⟨1⟩,⟨2⟩,⟨0⟩] ∧
      carousel.isSubtype (.object ⟨0⟩) (.object ⟨1⟩) ∧
      carousel.LookupsAgree "turn" (.object ⟨0⟩) (.object ⟨1⟩) ∧
      carousel.isSubtype (.object ⟨1⟩) (.object ⟨0⟩) ∧
      (∃ m, carousel.lookupMethod (.object ⟨0⟩) "halt" = .ok m) ∧
      ∃ m, carousel.lookupMethod (.object ⟨1⟩) "halt" = .ok m := by
  have up : carousel.isSubtype (.object ⟨0⟩) (.object ⟨1⟩) := by decide
  have round : carousel.isSubtype (.object ⟨1⟩) (.object ⟨0⟩) := by decide
  have uncovered : carousel.Uncovered ⟨1⟩ "turn" (.object ⟨0⟩) := ⟨⟨0⟩,[⟨0⟩],[⟨2⟩],rfl,by decide,by decide⟩
  have halts : ∃ m, carousel.lookupMethod (.object ⟨0⟩) "halt" = .ok m := ⟨_,rfl⟩
  exact ⟨by decide,by decide,up,(lookupMethod_inherited carousel _ _ "turn" up).2.1 uncovered,round,halts,
    (lookupMethod_inherited carousel _ _ "halt" round).1 halts⟩

end Nominal.ClassTable
