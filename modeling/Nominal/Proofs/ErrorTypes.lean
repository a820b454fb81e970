import Mathlib.Data.List.Forall2
import Nominal.Diagnostic

/-!
The types in an error, and what the message of an error takes from a table. Two errors that differ in
their types only have the same message where these types have the same names: a table is looked into for
the names of the types in the error and for nothing else.
-/

namespace Nominal

/-- The type of what is called. -/
def Callee.type : Callee → Ty
  | method receiver _ => receiver
  | constructor target => target

namespace TypeError

/-- The types in an error. -/
def types : TypeError → List Ty
  | assignment _ expected found => [expected,found]
  | arguments callee expected found => callee.type :: (expected ++ found)
  | argumentCount callee _ _ => [callee.type]
  | illegalInstantiation target => [target]
  | noSuchMethod receiver _ => [receiver]

end TypeError

section
variable (R : Ty → Ty → Prop)

/-- The callees are alike but for their types, which are related. -/
inductive Callee.Alike : Callee → Callee → Prop
  | method {a b : Ty} (name : String) : R a b → Alike (.method a name) (.method b name)
  | constructor {a b : Ty} : R a b → Alike (.constructor a) (.constructor b)

/-- The errors are alike but for their types, which are related one by one. -/
inductive TypeError.Alike : TypeError → TypeError → Prop
  | assignment {a b a' b' : Ty} (place : String) : R a a' → R b b' →
      Alike (.assignment place a b) (.assignment place a' b')
  | arguments {callee callee' : Callee} {expected expected' found found' : List Ty} :
      callee.Alike R callee' → List.Forall₂ R expected expected' → List.Forall₂ R found found' →
      Alike (.arguments callee expected found) (.arguments callee' expected' found')
  | argumentCount {callee callee' : Callee} (expected found : Nat) : callee.Alike R callee' →
      Alike (.argumentCount callee expected found) (.argumentCount callee' expected found)
  | illegalInstantiation {a b : Ty} : R a b → Alike (.illegalInstantiation a) (.illegalInstantiation b)
  | noSuchMethod {a b : Ty} (name : String) : R a b → Alike (.noSuchMethod a name) (.noSuchMethod b name)

end

section
variable {R : Ty → Ty → Prop}

theorem callee_alike_self {callee : Callee} (related : R callee.type callee.type) : callee.Alike R callee := by
  cases callee with
  | method receiver name => exact .method name related
  | constructor target => exact .constructor related

theorem alike_self {err : TypeError} (related : ∀ a ∈ err.types, R a a) : err.Alike R err := by
  cases err with
  | assignment place expected found =>
    simp only [TypeError.types,List.forall_mem_cons] at related
    exact .assignment place related.1 related.2.1
  | arguments callee expected found =>
    simp only [TypeError.types,List.forall_mem_cons,List.forall_mem_append] at related
    exact .arguments (callee_alike_self related.1) (List.forall₂_same.mpr related.2.1)
      (List.forall₂_same.mpr related.2.2)
  | argumentCount callee expected found =>
    exact .argumentCount expected found (callee_alike_self (related _ List.mem_cons_self))
  | illegalInstantiation target => exact .illegalInstantiation (related _ List.mem_cons_self)
  | noSuchMethod receiver name => exact .noSuchMethod name (related _ List.mem_cons_self)

theorem kind_alike {err other : TypeError} (alike : err.Alike R other) : err.kind = other.kind := by
  cases alike <;> rfl

namespace ClassTable

variable {s t : ClassTable}

theorem typeNames_alike (named : ∀ a b, R a b → s.typeName a = t.typeName b) {as bs : List Ty}
    (related : List.Forall₂ R as bs) : s.typeNames as = t.typeNames bs := by
  have same : as.map s.typeName = bs.map t.typeName := by
    rw [← List.forall₂_eq_eq_eq,List.forall₂_map_left_iff,List.forall₂_map_right_iff]
    exact related.imp named
  rw [typeNames,typeNames,same]

theorem calleeName_alike (named : ∀ a b, R a b → s.typeName a = t.typeName b) {callee other : Callee}
    (alike : callee.Alike R other) : s.calleeName callee = t.calleeName other := by
  cases alike with
  | method name related => simp only [calleeName,named _ _ related]
  | constructor related => simp only [calleeName,named _ _ related]

/-- Errors that are alike have the same message where their types have the same names. -/
theorem explain_alike (named : ∀ a b, R a b → s.typeName a = t.typeName b) {err other : TypeError}
    (alike : err.Alike R other) : s.explain err = t.explain other := by
  unfold explain
  cases alike with
  | assignment place first second =>
    dsimp only
    rw [named _ _ first,named _ _ second]
  | arguments callee expected found =>
    dsimp only
    rw [calleeName_alike named callee,typeNames_alike named expected,typeNames_alike named found]
  | argumentCount _ _ callee =>
    dsimp only
    rw [calleeName_alike named callee]
  | illegalInstantiation related =>
    dsimp only
    rw [named _ _ related]
  | noSuchMethod name related =>
    dsimp only
    rw [named _ _ related]

end ClassTable

end

end Nominal
