import Nominal.Proofs.Hierarchy
import Nominal.Proofs.WellFormed

/-!
Subtyping as an order. Over any table the subtype relation is reflexive and transitive. In a well-formed
table every superclass link leads to an earlier position, so no two types are below each other, and the
links from any class of the table end at the root class.
-/

namespace Nominal.ClassTable

theorem below_trans {t : ClassTable} {low middle high : Ty} (first : t.Below low middle)
    (second : t.Below middle high) : t.Below low high := by
  cases first with
  | refl => exact second
  | null c =>
    cases second with
    | refl => exact .null c
    | links => exact .null _
  | links path =>
    cases second with
    | refl => exact .links path
    | links further => exact .links (path.trans further)

theorem belows_trans {t : ClassTable} {low middle high : List Ty} (first : List.Forall₂ t.Below low middle)
    (second : List.Forall₂ t.Below middle high) : List.Forall₂ t.Below low high := by
  induction first generalizing high with
  | nil => exact second
  | cons below _ ih =>
    cases second with
    | cons above rest => exact .cons (below_trans below above) (ih rest)

/-- Primitive types are related to themselves only. -/
theorem below_primitive {t : ClassTable} {low high : Ty} (below : t.Below low high) (p : Primitive) :
    low = .primitive p ↔ high = .primitive p := by
  cases below <;> simp

section
variable {t : ClassTable}

theorem extends_before (formed : t.WellFormed) {c parent : ClassId} (link : t.Extends c parent) :
    parent.index < c.index := by
  obtain ⟨d,held,above⟩ := link
  exact (formed.proper c d held).upward parent above

/-- Links never lead to a later position, and to the same one only by standing still. -/
theorem reaches_before (formed : t.WellFormed) {c d : ClassId} (path : t.Reaches c d) :
    c = d ∨ d.index < c.index := by
  induction path with
  | refl => exact .inl rfl
  | tail _ link ih =>
    have down := extends_before formed link
    rcases ih with rfl | earlier
    · exact .inr down
    · exact .inr (Nat.lt_trans down earlier)

theorem below_antisymm (formed : t.WellFormed) {left right : Ty} (first : t.Below left right)
    (second : t.Below right left) : left = right := by
  cases first with
  | refl => rfl
  | null c => cases second
  | links path =>
    cases second with
    | refl => rfl
    | links back =>
      rcases reaches_before formed path with rfl | earlier
      · rfl
      · rcases reaches_before formed back with rfl | later
        · rfl
        · omega

/-- The links from any class of the table end at the root class. -/
theorem reaches_object (formed : t.WellFormed) {c : ClassId} {d : ClassDecl} (held : t.get? c = some d) :
    t.Reaches c t.object := by
  -- The position goes down with every link, and only the first class has no link.
  induction position : c.index using Nat.strongRecOn generalizing c d with
  | _ index ih =>
    have proper := formed.proper c d held
    cases above : d.superclass with
    | none =>
      rw [formed.object,proper.root.mp above]
      exact .refl
    | some parent =>
      have earlier := proper.upward parent above
      have inside : parent.index < t.classes.length :=
        Nat.lt_trans earlier (List.getElem?_eq_some_iff.mp held).1
      exact .head ⟨d,held,above⟩
        (ih parent.index (position ▸ earlier) (List.getElem?_eq_getElem inside) rfl)

end

/-- The type is a primitive one, null, or a class of the table. -/
def Known (t : ClassTable) : Ty → Prop
  | .primitive _ => True
  | .null => True
  | .object c => ∃ d, t.get? c = some d

/-- The subtype test is a partial order, with the root class above the reference types and null below
    all classes. Primitive types stand apart. -/
structure RootedOrder (t : ClassTable) : Prop where
  refl : ∀ a, t.isSubtype a a
  trans : ∀ a b c, t.isSubtype a b → t.isSubtype b c → t.isSubtype a c
  antisymm : ∀ a b, t.isSubtype a b → t.isSubtype b a → a = b
  root : ∀ a, t.Known a → t.isSubtype a t.objectType = a.isReference
  null : ∀ c, t.isSubtype .null (.object c)
  primitive : ∀ p a, (t.isSubtype (.primitive p) a ↔ a = .primitive p) ∧
    (t.isSubtype a (.primitive p) ↔ a = .primitive p)

theorem rootedOrder_of_wellFormed {t : ClassTable} (formed : t.WellFormed) : t.RootedOrder := by
  constructor
  case refl => simpa only [isSubtype_iff] using Below.refl
  case trans =>
    simp only [isSubtype_iff]
    exact fun a b c => below_trans
  case antisymm =>
    simp only [isSubtype_iff]
    exact fun a b => below_antisymm formed
  case null => simpa only [isSubtype_iff] using Below.null
  case primitive =>
    simp only [isSubtype_iff]
    intro p a
    constructor
    · exact ⟨fun below => (below_primitive below p).mp rfl,fun same => same ▸ .refl _⟩
    · exact ⟨fun below => (below_primitive below p).mpr rfl,fun same => same ▸ .refl _⟩
  case root =>
    intro a known
    rw [Bool.eq_iff_iff,isSubtype_iff,objectType]
    cases a with
    | primitive p =>
      have apart : ¬ t.Below (.primitive p) (.object t.object) := fun below => by
        cases (below_primitive below p).mp rfl
      simpa [Ty.isReference] using apart
    | null => simpa [Ty.isReference] using Below.null t.object
    | object c =>
      obtain ⟨d,held⟩ := known
      simpa [Ty.isReference] using Below.links (reaches_object formed held)

/-- Subtyping is a rooted partial order after any run of registration, and in every table that a
    configuration builds. -/
theorem registration_rootedOrder :
    (∀ ops, (Registry.builtin.run ops).table.RootedOrder) ∧
      ∀ (c : Config) (t : ClassTable), c.build = .ok t → t.RootedOrder := by
  constructor
  · intro ops
    exact rootedOrder_of_wellFormed (grown_wellFormed ⟨ops,rfl⟩)
  · intro c t built
    exact rootedOrder_of_wellFormed (grown_wellFormed (Config.build_grown built))

theorem forwardReference_rootedOrder :
    ∃ t, Config.forwardReference.build = .ok t ∧ t.RootedOrder := by
  obtain ⟨t,built⟩ := Config.forwardReference_builds
  exact ⟨t,built,registration_rootedOrder.2 Config.forwardReference t built⟩

end Nominal.ClassTable
