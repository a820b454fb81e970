import Nominal.Proofs.Conservation

/-!
What a new method changes. Links between classes stay as they are, so every search goes the same way as
before; the only class that answers differently is the one that got the method, and only under the name of
the method. So a look-up finds the new method exactly where the search comes to that class, and every other
look-up gives what it gave before. An expression can lose its type only if the class had the name by
inheritance: a name that is new to the class is new to every search that comes to it.
-/

namespace Nominal

namespace ClassTable

/-- The search for the name from the type comes to the class: the class is on the chain, and no class
    before it declares the name. -/
def Uncovered (t : ClassTable) (c : ClassId) (name : String) (receiver : Ty) : Prop :=
  ∃ r before after, receiver = .object r ∧ t.ancestors r = before ++ c :: after ∧
    ∀ d ∈ before, t.declared? d name = none

/-- The chain of a class depends on the links alone. -/
theorem chain_congr {s t : ClassTable} (links : ∀ c, t.superclass? c = s.superclass? c) (fuel : Nat)
    (seen : List ClassId) (c : ClassId) : t.chain fuel seen c = s.chain fuel seen c := by
  induction fuel generalizing seen c with
  | zero => rfl
  | succ fuel ih => simp only [chain,links,ih]

/-- A declaration in the place of another with the same superclass leaves the links as they are. -/
theorem superclass_put {t : ClassTable} {c : ClassId} {d new : ClassDecl} (held : t.get? c = some d)
    (same : new.superclass = d.superclass) (e : ClassId) : (t.put c new).superclass? e = t.superclass? e := by
  by_cases here : e = c
  · subst here
    simp only [superclass?,held,get_put_self held,Option.bind_some,same]
  · rw [superclass?,get_put_other here,superclass?]

theorem ancestors_put {t : ClassTable} {c : ClassId} {d new : ClassDecl} (held : t.get? c = some d)
    (same : new.superclass = d.superclass) (e : ClassId) : (t.put c new).ancestors e = t.ancestors e := by
  have count : (t.put c new).classes.length = t.classes.length := List.length_set
  rw [ancestors,count,chain_congr (superclass_put held same),ancestors]

section
variable {s t : ClassTable} {c : ClassId} {m : Method}

/-! ### The class that gets the method -/

theorem ancestors_addMethod (added : s.addMethod c m = .ok t) (e : ClassId) :
    t.ancestors e = s.ancestors e := by
  obtain ⟨d,held,_,rfl⟩ := (s.addMethod_ok_iff c m t).mp added
  exact ancestors_put held (by rfl) e

/-- The class had no method of that name, or the new one would have been refused. -/
theorem undeclared_addMethod (added : s.addMethod c m = .ok t) : s.declared? c m.name = none := by
  obtain ⟨d,held,fresh,_⟩ := (s.addMethod_ok_iff c m t).mp added
  rw [declared?,held,Option.bind_some,ClassDecl.declared?,List.find?_eq_none]
  intro other member same
  exact fresh (List.mem_map.mpr ⟨other,member,beq_iff_eq.mp same⟩)

/-- The class declares the new method under its name, and nothing else is declared anew. -/
theorem declared_addMethod (added : s.addMethod c m = .ok t) (e : ClassId) (name : String) :
    t.declared? e name = if e = c ∧ name = m.name then some m else s.declared? e name := by
  have undeclared := undeclared_addMethod added
  obtain ⟨d,held,_,rfl⟩ := (s.addMethod_ok_iff c m t).mp added
  by_cases here : e = c
  · subst here
    simp only [declared?,held,Option.bind_some,ClassDecl.declared?] at undeclared
    by_cases named : name = m.name
    · simp [declared?,get_put_self held,ClassDecl.declared?,named,undeclared]
    · simp [declared?,get_put_self held,held,ClassDecl.declared?,named,Ne.symm named]
  · simp [declared?,get_put_other here,here]

/-! ### Searches -/

/-- The search comes to the class before it finds anything, and finds the new method there. -/
theorem search_uncovered (added : s.addMethod c m = .ok t) {before : List ClassId} (apart : c ∉ before)
    (bare : ∀ d ∈ before, s.declared? d m.name = none) (after : List ClassId) :
    (before ++ c :: after).findSome? (t.declared? · m.name) = some m := by
  have still : before.findSome? (t.declared? · m.name) = none := by
    rw [List.findSome?_eq_none_iff]
    intro d member
    have other : d ≠ c := fun same => apart (same ▸ member)
    rw [declared_addMethod added,if_neg fun here => other here.1]
    exact bare d member
  have here : t.declared? c m.name = some m := by
    rw [declared_addMethod added,if_pos ⟨rfl,rfl⟩]
  rw [List.findSome?_append,still,Option.none_or,List.findSome?_cons_of_isSome (by rw [here]; rfl),here]

/-- A search for another name, and one that does not come to the class, goes on as before. -/
theorem search_covered (added : s.addMethod c m = .ok t) {way : List ClassId} {name : String}
    (covered : ¬ (name = m.name ∧ ∃ before after, way = before ++ c :: after ∧
      ∀ d ∈ before, s.declared? d name = none)) :
    way.findSome? (t.declared? · name) = way.findSome? (s.declared? · name) := by
  induction way with
  | nil => rfl
  | cons d rest ih =>
    by_cases here : d = c ∧ name = m.name
    · exact absurd ⟨here.2,[],rest,by rw [here.1,List.nil_append],by simp⟩ covered
    · rw [List.findSome?_cons,List.findSome?_cons,declared_addMethod added,if_neg here]
      cases found : s.declared? d name with
      | some other => rfl
      | none =>
        refine ih ?_
        -- If the rest came to the class, so would the whole, for this class declares nothing.
        rintro ⟨named,before,after,rfl,bare⟩
        exact covered ⟨named,d :: before,after,rfl,List.forall_mem_cons.mpr ⟨found,bare⟩⟩

theorem lookupMethod_uncovered (added : s.addMethod c m = .ok t) {receiver : Ty}
    (uncovered : s.Uncovered c m.name receiver) : t.lookupMethod receiver m.name = .ok m := by
  obtain ⟨r,before,after,rfl,chain,bare⟩ := uncovered
  have apart : c ∉ before := by
    have distinct := (s.ancestors_wayUp r).distinct
    rw [chain,List.nodup_append] at distinct
    exact fun member => distinct.2.2 c member c List.mem_cons_self rfl
  have found := search_uncovered added apart bare after
  simp only [lookupMethod,ancestors_addMethod added,chain,found]

theorem lookupMethod_covered (added : s.addMethod c m = .ok t) {receiver : Ty} {name : String}
    (covered : ¬ (name = m.name ∧ s.Uncovered c name receiver)) :
    t.lookupMethod receiver name = s.lookupMethod receiver name := by
  cases receiver with
  | primitive p => rfl
  | null => rfl
  | object r =>
    have same : (s.ancestors r).findSome? (t.declared? · name) =
        (s.ancestors r).findSome? (s.declared? · name) := by
      refine search_covered added ?_
      rintro ⟨named,before,after,chain,bare⟩
      exact covered ⟨named,r,before,after,rfl,chain,bare⟩
    simp only [lookupMethod,ancestors_addMethod added,same]

/-! ### Types of expressions -/

/-- What is inherited stays so, if the name of the new method is new to its class: a class on the way to an
    inherited method inherits it too, so the new method is not on the way. -/
theorem inherits_addMethod (added : s.addMethod c m = .ok t) (unknown : ∀ other, ¬ s.Inherits m.name c other)
    {name : String} {e : ClassId} {found : Method} (inherited : s.Inherits name e found) :
    t.Inherits name e found := by
  have elsewhere {e : ClassId} {found : Method} (inherited : s.Inherits name e found) :
      ¬ (e = c ∧ name = m.name) := by
    rintro ⟨rfl,rfl⟩
    exact unknown found inherited
  induction inherited with
  | @own e found declared =>
    refine .own ((t.declared_iff e name found).mp ?_)
    rw [declared_addMethod added,if_neg (elsewhere (.own declared))]
    exact (s.declared_iff e name found).mpr declared
  | @up e parent found nothing link further ih =>
    refine .up ((t.declared_none_iff e name).mp ?_) (extends_kept (keeps_addMethod added) link) ih
    rw [declared_addMethod added,if_neg (elsewhere (.up nothing link further))]
    exact (s.declared_none_iff e name).mpr nothing

theorem carriesOver_addMethod (added : s.addMethod c m = .ok t)
    (unknown : ∀ other, ¬ s.Inherits m.name c other) : s.CarriesOver t where
  object := (keeps_addMethod added).object
  below _ _ := below_kept (keeps_addMethod added)
  inherits _ _ _ := inherits_addMethod added unknown
  constructor e d heldThere := by
    obtain ⟨decl,held,_,rfl⟩ := (s.addMethod_ok_iff c m t).mp added
    by_cases here : e = c
    · subst here
      cases Option.some.inj (held.symm.trans heldThere)
      exact ⟨_,get_put_self held _,rfl⟩
    · exact ⟨d,by rw [get_put_other here,heldThere],rfl⟩

end

/-- The effect of a new method, in any table. It is found by the searches for its name that come to its
    class, and no other search is affected. If the class had no method of that name, not even by
    inheritance, every expression that has a type keeps it. -/
theorem addMethod_effect (s t : ClassTable) (c : ClassId) (m : Method) (added : s.addMethod c m = .ok t) :
    (∀ receiver name,
      (name = m.name ∧ s.Uncovered c name receiver → t.lookupMethod receiver name = .ok m) ∧
      (¬ (name = m.name ∧ s.Uncovered c name receiver) →
        t.lookupMethod receiver name = s.lookupMethod receiver name)) ∧
    ((∃ err, s.lookupMethod (.object c) m.name = .error err) → ∀ (e : Expr) (type : Ty),
      (e.check s).result = .ok type → (e.check t).result = .ok type) := by
  constructor
  · intro receiver name
    refine ⟨?_,lookupMethod_covered added⟩
    rintro ⟨rfl,uncovered⟩
    exact lookupMethod_uncovered added uncovered
  · rintro ⟨err,failed⟩ e type checked
    refine check_carriesOver (carriesOver_addMethod added ?_) checked
    intro other inherited
    rw [(s.lookupMethod_ok_iff (.object c) m.name other).mpr ⟨c,rfl,inherited⟩] at failed
    cases failed

/-- Animals, dogs and puppies, of which only puppies speak. -/
def puppies : ClassTable :=
  (Registry.builtin.run [.addClass "Animal" none,.addClass "Dog" (some ⟨2⟩),.addClass "Puppy" (some ⟨3⟩),
    .addMethod ⟨4⟩ ⟨"speak",[],.object ⟨1⟩⟩]).table

/-- Animals speak, and say nothing. -/
def speak : Method := ⟨"speak",[],.primitive .void⟩

/-- A puppy is made to speak, and the answer is kept. -/
def puppySpeaks : Expr := .assign ⟨"said",.object ⟨1⟩⟩ (.call (.new (.object ⟨4⟩) []) "speak" [])

theorem speak_effect :
    ∃ t, puppies.addMethod ⟨2⟩ speak = .ok t ∧ t.lookupMethod (.object ⟨3⟩) "speak" = .ok speak ∧
      t.lookupMethod (.object ⟨4⟩) "speak" = .ok ⟨"speak",[],.object ⟨1⟩⟩ ∧
      (puppySpeaks.check t).result = .ok (.object ⟨1⟩) := by
  obtain ⟨t,added,_⟩ := exists_ok_of_any (puppies.addMethod ⟨2⟩ speak) (fun _ => true) (by decide)
  obtain ⟨searches,expressions⟩ := addMethod_effect puppies t ⟨2⟩ speak added
  refine ⟨t,added,?_,?_,?_⟩
  · exact (searches (.object ⟨3⟩) "speak").1 ⟨rfl,⟨3⟩,[⟨3⟩],[⟨0⟩],rfl,by decide,by decide⟩
  · refine ((searches (.object ⟨4⟩) "speak").2 ?_).trans (by decide)
    rintro ⟨_,r,before,after,receiver,chain,bare⟩
    cases receiver
    -- The puppy itself comes before the animal on the chain, and it declares the name.
    have own : puppies.declared? ⟨4⟩ "speak" ≠ none := by decide
    have begins : puppies.ancestors ⟨4⟩ = ⟨4⟩ :: [⟨3⟩,⟨2⟩,⟨0⟩] := by decide
    rw [begins] at chain
    cases before with
    | nil => cases chain
    | cons first rest =>
      obtain ⟨rfl,_⟩ := List.cons.inj chain
      exact own (bare _ List.mem_cons_self)
  · exact expressions ⟨_,rfl⟩ puppySpeaks _ (by rfl)

end ClassTable

end Nominal
