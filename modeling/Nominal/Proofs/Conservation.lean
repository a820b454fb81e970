import Nominal.Proofs.AncestorWalk
import Nominal.Proofs.Typing

/-!
Registration only adds. A class that is registered keeps its position, its name and its superclass through
all later operations, so nothing that was settled about registered classes is unsettled: look-ups by name,
ancestors and subtyping. Members may still change, and with them the types of expressions; but where only
classes are added, an expression that has a type keeps it. A position that had no class may get one, and
then more is true of it than before, never less.
-/

namespace Nominal

namespace ClassTable

/-- The second table has the classes of the first at their positions, with their names and superclasses. -/
structure Keeps (s t : ClassTable) : Prop where
  object : t.object = s.object
  classes : ∀ c d, s.get? c = some d →
    ∃ later, t.get? c = some later ∧ later.name = d.name ∧ later.superclass = d.superclass

/-- The second table has the classes of the first as they are, and perhaps others behind them. -/
structure Continues (s t : ClassTable) : Prop where
  object : t.object = s.object
  classes : s.classes <+: t.classes

/-! ### What one operation keeps -/

section
variable {s t u : ClassTable}

theorem keeps_refl (t : ClassTable) : t.Keeps t := ⟨rfl,fun _ d held => ⟨d,held,rfl,rfl⟩⟩

theorem keeps_trans (first : s.Keeps t) (second : t.Keeps u) : s.Keeps u := by
  refine ⟨second.object.trans first.object,?_⟩
  intro c d held
  obtain ⟨middle,heldMiddle,name,superclass⟩ := first.classes c d held
  obtain ⟨last,heldLast,nameLast,superclassLast⟩ := second.classes c middle heldMiddle
  exact ⟨last,heldLast,nameLast.trans name,superclassLast.trans superclass⟩

theorem get_continues (continues : s.Continues t) {c : ClassId} {d : ClassDecl} (held : s.get? c = some d) :
    t.get? c = some d := by
  obtain ⟨more,together⟩ := continues.classes
  obtain ⟨inside,_⟩ := List.getElem?_eq_some_iff.mp held
  rw [get?,← together,List.getElem?_append_left inside]
  exact held

theorem keeps_of_continues (continues : s.Continues t) : s.Keeps t :=
  ⟨continues.object,fun _ d held => ⟨d,get_continues continues held,rfl,rfl⟩⟩

theorem continues_refl (t : ClassTable) : t.Continues t := ⟨rfl,List.prefix_rfl⟩

theorem continues_trans (first : s.Continues t) (second : t.Continues u) : s.Continues u :=
  ⟨second.object.trans first.object,first.classes.trans second.classes⟩

theorem continues_addClass {bearer : Option ClassId} {name : String} {superclass : Option ClassId} {c : ClassId}
    (added : s.addClassUnless bearer name superclass = .ok (t,c)) : s.Continues t := by
  obtain ⟨_,_,_,rfl,_⟩ := (s.addClassUnless_ok_iff bearer name superclass t c).mp added
  exact ⟨rfl,List.prefix_append _ _⟩

theorem keeps_put {c : ClassId} {d new : ClassDecl} (held : s.get? c = some d) (name : new.name = d.name)
    (superclass : new.superclass = d.superclass) : s.Keeps (s.put c new) := by
  refine ⟨rfl,?_⟩
  intro e other heldOther
  by_cases here : e = c
  · subst here
    cases held.symm.trans heldOther
    exact ⟨new,get_put_self held new,name,superclass⟩
  · exact ⟨other,by rw [get_put_other here,heldOther],rfl,rfl⟩

theorem keeps_addMethod {c : ClassId} {m : Method} (added : s.addMethod c m = .ok t) : s.Keeps t := by
  obtain ⟨d,held,_,rfl⟩ := (s.addMethod_ok_iff c m t).mp added
  exact keeps_put held rfl rfl

end

end ClassTable

/-- The operation asks for a new class. -/
def Operation.isAddClass : Operation → Bool
  | addClass .. => true
  | _ => false

namespace Registry

open ClassTable (keeps_refl keeps_trans continues_refl continues_trans)

variable {r next : Registry} {op : Operation}

theorem continues_apply (adds : op.isAddClass) (accepted : r.apply op = .ok next) :
    r.table.Continues next.table := by
  cases op with
  | addClass name superclass =>
    obtain ⟨⟨t,c⟩,added,rfl⟩ := (map_ok_iff _ _ _).mp accepted
    exact ClassTable.continues_addClass added
  | addMethod => cases adds
  | setConstructor => cases adds

theorem keeps_apply (accepted : r.apply op = .ok next) : r.table.Keeps next.table := by
  cases op with
  | addClass => exact ClassTable.keeps_of_continues (continues_apply rfl accepted)
  | addMethod c m =>
    obtain ⟨t,added,rfl⟩ := (map_ok_iff _ _ _).mp accepted
    exact ClassTable.keeps_addMethod added
  | setConstructor c params =>
    obtain ⟨t,set,rfl⟩ := (map_ok_iff _ _ _).mp accepted
    obtain ⟨d,held,rfl⟩ := (r.table.setConstructor_ok_iff c params t).mp set
    exact ClassTable.keeps_put held rfl rfl

/-- One operation, accepted or refused. -/
theorem keeps_step (r : Registry) (op : Operation) : r.table.Keeps (r.step op).table := by
  unfold step
  split
  · exact keeps_apply ‹_›
  · exact keeps_refl _

theorem continues_step (adds : op.isAddClass) (r : Registry) : r.table.Continues (r.step op).table := by
  unfold step
  split
  · exact continues_apply adds ‹_›
  · exact continues_refl _

theorem keeps_run (r : Registry) (ops : List Operation) : r.table.Keeps (r.run ops).table := by
  induction ops generalizing r with
  | nil => exact keeps_refl _
  | cons op ops ih => exact keeps_trans (keeps_step r op) (ih (r.step op))

theorem continues_run (r : Registry) {ops : List Operation} (add : ∀ op ∈ ops, op.isAddClass) :
    r.table.Continues (r.run ops).table := by
  induction ops generalizing r with
  | nil => exact continues_refl _
  | cons op ops ih =>
    obtain ⟨adds,others⟩ := List.forall_mem_cons.mp add
    exact continues_trans (continues_step adds r) (ih (r.step op) others)

end Registry

/-! ### Ancestors and subtypes of registered classes -/

namespace ClassTable

section
variable {s t : ClassTable}

/-- In a well-formed table the superclass of a class is there too. -/
theorem extends_held (formed : s.WellFormed) {c parent : ClassId} (link : s.Extends c parent) :
    ∃ d, s.get? parent = some d := by
  have earlier := extends_before formed link
  have inside := extends_inside link
  exact ⟨_,List.getElem?_eq_getElem (Nat.lt_trans earlier inside)⟩

theorem superclass_kept (keeps : s.Keeps t) {c : ClassId} {d : ClassDecl} (held : s.get? c = some d) :
    t.superclass? c = s.superclass? c := by
  obtain ⟨later,heldLater,_,same⟩ := keeps.classes c d held
  simp only [superclass?,held,heldLater,Option.bind_some,same]

/-- A walk from a class of the earlier table stays among its classes, so it goes the same way later. -/
theorem collects_kept (formed : s.WellFormed) (keeps : s.Keeps t) {a : Ascent} {walk : List ClassId}
    (collects : Ascent.Collects s a walk) (inside : ∀ c, a.next = some c → ∃ d, s.get? c = some d) :
    Ascent.Collects t a walk := by
  induction collects with
  | @ended a stops =>
    refine .ended ?_
    -- Where the walk stops does not depend on the table.
    cases goes : a.step t with
    | none => rfl
    | some met =>
      obtain ⟨next,unseen,_⟩ := Ascent.step_iff.mp goes
      rw [Ascent.step_iff.mpr ⟨next,unseen,rfl⟩] at stops
      cases stops
  | @meet a b c rest goes _ ih =>
    obtain ⟨next,unseen,rfl⟩ := Ascent.step_iff.mp goes
    obtain ⟨d,held⟩ := inside c next
    refine .meet (Ascent.step_iff.mpr ⟨next,unseen,by rw [superclass_kept keeps held]⟩) (ih ?_)
    intro parent above
    exact extends_held formed ((s.superclass_iff c parent).mp above)

theorem ancestors_kept (formed : s.WellFormed) (keeps : s.Keeps t) {c : ClassId} {d : ClassDecl}
    (held : s.get? c = some d) : t.ancestors c = s.ancestors c := by
  have before : Ascent.Collects s (.start c) (s.ancestors c) := (Ascent.collects_iff s c _).mpr rfl
  have after : Ascent.Collects t (.start c) (s.ancestors c) := by
    apply collects_kept formed keeps before
    rintro _ ⟨⟩
    exact ⟨d,held⟩
  exact ((Ascent.collects_iff t c _).mp after).symm

theorem isSubtype_kept (formed : s.WellFormed) (keeps : s.Keeps t) {low : Ty} (known : s.Known low)
    (high : Ty) : t.isSubtype low high = s.isSubtype low high := by
  cases low with
  | primitive p => rfl
  | null => cases high <;> rfl
  | object c =>
    obtain ⟨d,held⟩ := known
    cases high with
    | primitive p => rfl
    | null => rfl
    | object e => simp only [isSubtype,ancestors_kept formed keeps held]

theorem find_kept (formed : s.WellFormed) (formedLater : t.WellFormed) (keeps : s.Keeps t) {name : String}
    {c : ClassId} (found : s.find? name = some c) : t.find? name = some c := by
  obtain ⟨d,held,named⟩ := (find_iff formed.distinct name c).mp found
  obtain ⟨later,heldLater,same,_⟩ := keeps.classes c d held
  exact (find_iff formedLater.distinct name c).mpr ⟨later,heldLater,same.trans named⟩

end

end ClassTable

/-! ### Types of expressions -/

/-- Subtyping, inheritance and constructors of the first table hold in the second as well. -/
structure ClassTable.CarriesOver (s t : ClassTable) : Prop where
  object : t.object = s.object
  below : ∀ low high, s.Below low high → t.Below low high
  inherits : ∀ name c m, s.Inherits name c m → t.Inherits name c m
  constructor : ∀ c d, s.get? c = some d → ∃ later, t.get? c = some later ∧ later.constructor = d.constructor

section
variable {s t : ClassTable}

mutual

/-- What carries over from one table to another keeps the types of expressions. -/
theorem hasType_carriesOver (carries : s.CarriesOver t) (e : Expr) {type : Ty} (typed : HasType s e type) :
    HasType t e type := by
  cases e with
  | var v => cases typed; exact .var v
  | literal text type => cases typed; exact .literal text type
  | null => cases typed; exact .null
  | assign v value =>
    cases typed with
    | assign typedValue below =>
      exact .assign (hasType_carriesOver carries value typedValue) (carries.below _ _ below)
  | call receiver name args =>
    cases typed with
    | call on inherited arguments fits =>
      exact .call (hasType_carriesOver carries receiver on) (carries.inherits _ _ _ inherited)
        (hasTypes_carriesOver carries args arguments) (fits.imp carries.below)
  | new target args =>
    cases typed with
    | @new c d _ found held below arguments fits =>
      obtain ⟨later,heldLater,same⟩ := carries.constructor c d held
      have root : t.objectType = s.objectType := congrArg Ty.object carries.object
      exact .new heldLater (root ▸ carries.below _ _ below) (hasTypes_carriesOver carries args arguments)
        (same ▸ fits.imp carries.below)

theorem hasTypes_carriesOver (carries : s.CarriesOver t) (es : List Expr) {types : List Ty}
    (typed : List.Forall₂ (HasType s) es types) : List.Forall₂ (HasType t) es types := by
  cases es with
  | nil => cases typed; exact .nil
  | cons e rest =>
    cases typed with
    | cons first others =>
      exact .cons (hasType_carriesOver carries e first) (hasTypes_carriesOver carries rest others)

end

theorem check_carriesOver (carries : s.CarriesOver t) {e : Expr} {type : Ty}
    (checked : (e.check s).result = .ok type) : (e.check t).result = .ok type := by
  rw [check_ok_iff] at checked ⊢
  exact hasType_carriesOver carries e checked

end

namespace ClassTable

section
variable {s t : ClassTable}

theorem extends_kept (keeps : s.Keeps t) {c parent : ClassId} (link : s.Extends c parent) :
    t.Extends c parent := by
  obtain ⟨d,held,above⟩ := link
  obtain ⟨later,heldLater,_,same⟩ := keeps.classes c d held
  exact ⟨later,heldLater,same.trans above⟩

theorem below_kept (keeps : s.Keeps t) {low high : Ty} (below : s.Below low high) : t.Below low high := by
  cases below with
  | refl => exact .refl _
  | null c => exact .null c
  | links path => exact .links (path.lift id fun _ _ => extends_kept keeps)

theorem declares_continues_iff (continues : s.Continues t) {c : ClassId} {d : ClassDecl}
    (held : s.get? c = some d) (name : String) (m : Method) : t.Declares c name m ↔ s.Declares c name m := by
  unfold Declares
  rw [held,get_continues continues held]

/-- A method is still inherited when classes are added: every class on the way to it is an old one, with
    its old methods. -/
theorem inherits_continues (continues : s.Continues t) {name : String} {c : ClassId} {m : Method}
    (inherited : s.Inherits name c m) : t.Inherits name c m := by
  induction inherited with
  | @own c m declared =>
    have ⟨d,_,_,held,_⟩ := declared
    exact .own ((declares_continues_iff continues held name m).mpr declared)
  | @up c parent m nothing link _ ih =>
    have ⟨d,held,_⟩ := link
    have nothingLater : ∀ other, ¬ t.Declares c name other := fun other declared =>
      nothing other ((declares_continues_iff continues held name other).mp declared)
    exact .up nothingLater (extends_kept (keeps_of_continues continues) link) ih

theorem carriesOver_of_continues (continues : s.Continues t) : s.CarriesOver t where
  object := continues.object
  below _ _ := below_kept (keeps_of_continues continues)
  inherits _ _ _ := inherits_continues continues
  constructor _ d held := ⟨d,get_continues continues held,rfl⟩

end

end ClassTable

/-- What the first registry says of its classes is what the second says of them. -/
structure Registry.Conserves (r later : Registry) : Prop extends r.table.Keeps later.table where
  names : ∀ name c, r.classId? name = some c → later.classId? name = some c
  ancestors : ∀ c d, r.table.get? c = some d → later.table.ancestors c = r.table.ancestors c
  /-- The upper type may be anything: no registered class is below a position without one. -/
  subtypes : ∀ low high, r.table.Known low →
    later.table.isSubtype low high = r.table.isSubtype low high

theorem Registry.conserves_run {r : Registry} (sound : r.Sound) (ops : List Operation) :
    r.Conserves (r.run ops) := by
  have keeps := keeps_run r ops
  have soundLater := sound_run sound ops
  refine ⟨keeps,?_,?_,?_⟩
  · intro name c found
    rw [sound.index] at found
    rw [soundLater.index]
    exact ClassTable.find_kept sound.formed soundLater.formed keeps found
  · intro c d held
    exact ClassTable.ancestors_kept sound.formed keeps held
  · intro low high known
    exact ClassTable.isSubtype_kept sound.formed keeps known high

/-- Registration is append-only: whatever operations follow a run from the built-in classes, all that holds
    of the classes registered so far goes on to hold. If the operations that follow ask for new classes
    only, every expression that has a type keeps it. -/
theorem registration_conservative (earlier later : List Operation) :
    (Registry.builtin.run earlier).Conserves ((Registry.builtin.run earlier).run later) ∧
      ((∀ op ∈ later, op.isAddClass) → ∀ (e : Expr) (type : Ty),
        (e.check (Registry.builtin.run earlier).table).result = .ok type →
        (e.check ((Registry.builtin.run earlier).run later).table).result = .ok type) := by
  constructor
  · exact Registry.conserves_run (Registry.sound_grown earlier) later
  · intro add e type checked
    have continues := Registry.continues_run (Registry.builtin.run earlier) add
    exact check_carriesOver (ClassTable.carriesOver_of_continues continues) checked

/-- Operations of which the second is refused. -/
def animalOps : List Operation :=
  [.addClass "Animal" none,.addClass "Animal" none,.addMethod ⟨2⟩ ⟨"speak",[],.object ⟨1⟩⟩]

/-- Operations for new classes only, of which the first is refused. -/
def dogOps : List Operation := [.addClass "Animal" none,.addClass "Dog" (some ⟨2⟩)]

/-- An expression that mentions the position of the class after the last one. -/
def nextClassAssigned : Expr := .assign ⟨"next",.object ⟨3⟩⟩ (.var ⟨"other",.object ⟨3⟩⟩)

theorem nextClass_conserved :
    (Registry.builtin.run animalOps).table.get? ⟨3⟩ = none ∧
      ((Registry.builtin.run animalOps).run dogOps).table.ancestors ⟨2⟩ =
        (Registry.builtin.run animalOps).table.ancestors ⟨2⟩ ∧
      (nextClassAssigned.check (Registry.builtin.run animalOps).table).result = .ok (.object ⟨3⟩) ∧
      (nextClassAssigned.check ((Registry.builtin.run animalOps).run dogOps).table).result =
        .ok (.object ⟨3⟩) := by
  obtain ⟨conserves,expressions⟩ := registration_conservative animalOps dogOps
  have checked : (nextClassAssigned.check (Registry.builtin.run animalOps).table).result =
      .ok (.object ⟨3⟩) := by rfl
  refine ⟨by decide,conserves.ancestors ⟨2⟩ _ rfl,checked,?_⟩
  exact expressions (by decide) nextClassAssigned _ checked

end Nominal
