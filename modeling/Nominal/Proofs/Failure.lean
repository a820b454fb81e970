import Mathlib.Data.List.Forall2

/-!
Computations that may fail, one after another. A sequence of them succeeds when each does, and its
failure is that of the first one that fails.
-/

namespace Nominal

variable {ε α β γ : Type}

theorem bind_ok_iff (first : Except ε α) (next : α → Except ε β) (b : β) :
    (first >>= next) = .ok b ↔ ∃ a, first = .ok a ∧ next a = .ok b := by
  cases first with
  | ok a => simp [bind,Except.bind]
  | error e => simp [bind,Except.bind]

theorem bind_error_iff (first : Except ε α) (next : α → Except ε β) (e : ε) :
    (first >>= next) = .error e ↔ first = .error e ∨ ∃ a, first = .ok a ∧ next a = .error e := by
  cases first with
  | ok a => simp [bind,Except.bind]
  | error other => simp [bind,Except.bind]

theorem map_ok_iff (first : Except ε α) (f : α → β) (b : β) :
    first.map f = .ok b ↔ ∃ a, first = .ok a ∧ f a = b := by
  cases first with
  | ok a => simp [Except.map]
  | error e => simp [Except.map]

theorem pure_ok_iff (a b : α) : (pure a : Except ε α) = .ok b ↔ a = b := by
  simp [pure,Except.pure]

theorem pure_not_error (a : α) (e : ε) : (pure a : Except ε α) ≠ .error e := by
  simp [pure,Except.pure]

/-- What follows a computation without failing leaves its failure as it is. -/
theorem bind_pure_error_iff (first : Except ε α) (f : α → β) (e : ε) :
    (first >>= fun a => pure (f a)) = .error e ↔ first = .error e := by
  cases first with
  | ok a => simp [bind,Except.bind,pure,Except.pure]
  | error other => simp [bind,Except.bind]

/-- A result that was computed and tested is there. -/
theorem exists_ok_of_any (result : Except ε α) (test : α → Bool) (tested : result.toOption.any test = true) :
    ∃ a, result = .ok a ∧ test a = true := by
  cases result with
  | ok a => exact ⟨a,rfl,tested⟩
  | error e => cases tested

/-- Two lists that one list goes along with go along with each other. -/
theorem forall₂_meet {R : γ → α → Prop} {S : γ → β → Prop} {T : α → β → Prop}
    (meet : ∀ z x y, R z x → S z y → T x y) {zs : List γ} {xs : List α} {ys : List β}
    (left : List.Forall₂ R zs xs) (right : List.Forall₂ S zs ys) : List.Forall₂ T xs ys := by
  induction left generalizing ys with
  | nil =>
    cases right
    exact .nil
  | cons first _ ih =>
    cases right with
    | cons other others => exact .cons (meet _ _ _ first other) (ih others)

/-- Computations along a list succeed together with the results of each. -/
theorem mapM_ok_iff (compute : α → Except ε β) (xs : List α) (ys : List β) :
    xs.mapM compute = .ok ys ↔ List.Forall₂ (fun x y => compute x = .ok y) xs ys := by
  induction xs generalizing ys with
  | nil => rw [List.mapM_nil,pure_ok_iff,List.forall₂_nil_left_iff,eq_comm]
  | cons x xs ih =>
    simp only [List.mapM_cons,bind_ok_iff,pure_ok_iff,ih,List.forall₂_cons_left_iff]
    constructor
    · rintro ⟨y,first,rest,others,rfl⟩
      exact ⟨y,rest,first,others,rfl⟩
    · rintro ⟨y,rest,first,others,rfl⟩
      exact ⟨y,first,rest,others,rfl⟩

/-- Searches along a list succeed together with the results of each. -/
theorem mapM_some_iff (search : α → Option β) (xs : List α) (ys : List β) :
    xs.mapM search = some ys ↔ List.Forall₂ (fun x y => search x = some y) xs ys := by
  induction xs generalizing ys with
  | nil => simp [List.mapM_nil,eq_comm]
  | cons x xs ih =>
    simp only [List.mapM_cons,Option.bind_eq_bind,Option.bind_eq_some_iff,Option.pure_def,Option.some.injEq,ih,
      List.forall₂_cons_left_iff]
    constructor
    · rintro ⟨y,first,rest,others,rfl⟩
      exact ⟨y,rest,first,others,rfl⟩
    · rintro ⟨y,rest,first,others,rfl⟩
      exact ⟨y,first,rest,others,rfl⟩

/-- Computations along a list succeed only if each does. -/
theorem mapM_ok_each {compute : α → Except ε β} {xs : List α} {ys : List β} (done : xs.mapM compute = .ok ys)
    {x : α} (here : x ∈ xs) : ∃ y, compute x = .ok y := by
  rw [mapM_ok_iff] at done
  induction done with
  | nil => cases here
  | cons first _ ih =>
    rcases List.mem_cons.mp here with rfl | later
    · exact ⟨_,first⟩
    · exact ih later

/-- Computations along a list fail only if one of them does, with its failure. -/
theorem mapM_error_some {compute : α → Except ε β} {xs : List α} {e : ε} (failed : xs.mapM compute = .error e) :
    ∃ x ∈ xs, compute x = .error e := by
  induction xs with
  | nil => exact absurd failed (pure_not_error _ e)
  | cons x xs ih =>
    rw [List.mapM_cons,bind_error_iff] at failed
    rcases failed with here | ⟨y,_,later⟩
    · exact ⟨x,List.mem_cons_self,here⟩
    · obtain ⟨other,member,here⟩ := ih ((bind_pure_error_iff _ _ e).mp later)
      exact ⟨other,List.mem_cons_of_mem _ member,here⟩

/-- What holds at the start and is kept by every computation that succeeds holds at the end of a run. -/
theorem foldlM_ok_induction {Holds : α → Prop} {compute : α → γ → Except ε α}
    (keeps : ∀ a x b, Holds a → compute a x = .ok b → Holds b) {xs : List γ} {a b : α} (start : Holds a)
    (run : xs.foldlM compute a = .ok b) : Holds b := by
  induction xs generalizing a with
  | nil =>
    cases run
    exact start
  | cons x xs ih =>
    rw [List.foldlM_cons,bind_ok_iff] at run
    obtain ⟨next,first,others⟩ := run
    exact ih (keeps a x next start first) others

/-- A run fails where one of its computations does, after those before it succeeded. -/
theorem foldlM_error_iff (compute : α → γ → Except ε α) (xs : List γ) (a : α) (e : ε) :
    xs.foldlM compute a = .error e ↔ ∃ before x after b, xs = before ++ x :: after ∧
      before.foldlM compute a = .ok b ∧ compute b x = .error e := by
  constructor
  · intro failed
    induction xs generalizing a with
    | nil => cases failed
    | cons x xs ih =>
      rw [List.foldlM_cons,bind_error_iff] at failed
      rcases failed with here | ⟨next,first,later⟩
      · exact ⟨[],x,xs,a,rfl,rfl,here⟩
      · obtain ⟨before,y,after,b,rfl,done,failed⟩ := ih next later
        exact ⟨x :: before,y,after,b,rfl,(bind_ok_iff _ _ _).mpr ⟨next,first,done⟩,failed⟩
  · rintro ⟨before,x,after,b,rfl,done,failed⟩
    rw [List.foldlM_append,bind_error_iff]
    exact .inr ⟨b,done,(bind_error_iff _ _ _).mpr (.inl failed)⟩

/-- A run seen through a view is the run of the computations as the view shows them. -/
theorem foldlM_map {view : α → β} {compute : α → γ → Except ε α} {shown : β → γ → Except ε β}
    (same : ∀ a x, (compute a x).map view = shown (view a) x) (xs : List γ) (a : α) :
    (xs.foldlM compute a).map view = xs.foldlM shown (view a) := by
  induction xs generalizing a with
  | nil => rfl
  | cons x xs ih =>
    rw [List.foldlM_cons,List.foldlM_cons,← same]
    cases compute a x with
    | ok next => exact ih next
    | error e => rfl

/-- No member of the list has a fault. -/
def NoFault (fault : γ → ε → Prop) (xs : List γ) : Prop := ∀ x ∈ xs, ∀ e, ¬ fault x e

/-- The fault is that of the first member of the list that has one. -/
def FirstFault (fault : γ → ε → Prop) (xs : List γ) (e : ε) : Prop :=
  ∃ before x after, xs = before ++ x :: after ∧ NoFault fault before ∧ fault x e

section
variable {fault : γ → ε → Prop}

theorem noFault_cons (x : γ) (xs : List γ) :
    NoFault fault (x :: xs) ↔ (∀ e, ¬ fault x e) ∧ NoFault fault xs := by
  simp [NoFault]

theorem firstFault_nil (e : ε) : ¬ FirstFault fault [] e := by
  rintro ⟨before,x,after,split,_⟩
  simp at split

theorem firstFault_cons (x : γ) (xs : List γ) (e : ε) :
    FirstFault fault (x :: xs) e ↔ fault x e ∨ ((∀ other, ¬ fault x other) ∧ FirstFault fault xs e) := by
  constructor
  · rintro ⟨before,y,after,split,clean,here⟩
    cases before with
    | nil =>
      obtain ⟨rfl,_⟩ := List.cons.inj split
      exact .inl here
    | cons z before =>
      obtain ⟨rfl,rest⟩ := List.cons.inj split
      rw [noFault_cons] at clean
      exact .inr ⟨clean.1,before,y,after,rest,clean.2,here⟩
  · rintro (here | ⟨fine,before,y,after,rfl,clean,here⟩)
    · exact ⟨[],x,xs,rfl,by simp [NoFault],here⟩
    · exact ⟨x :: before,y,after,rfl,(noFault_cons x before).mpr ⟨fine,clean⟩,here⟩

theorem firstFault_singleton (x : γ) (e : ε) : FirstFault fault [x] e ↔ fault x e := by
  rw [firstFault_cons]
  constructor
  · rintro (here | ⟨_,later⟩)
    · exact here
    · exact absurd later (firstFault_nil e)
  · exact .inl

/-- Without a fault there is no first one, and otherwise there is. -/
theorem noFault_iff (xs : List γ) : NoFault fault xs ↔ ∀ e, ¬ FirstFault fault xs e := by
  constructor
  · rintro clean e ⟨before,x,after,rfl,_,here⟩
    exact clean x (by simp) e here
  · intro none_first
    induction xs with
    | nil => simp [NoFault]
    | cons x xs ih =>
      have fine : ∀ e, ¬ fault x e := fun e here => none_first e ((firstFault_cons x xs e).mpr (.inl here))
      refine (noFault_cons x xs).mpr ⟨fine,ih ?_⟩
      intro e later
      exact none_first e ((firstFault_cons x xs e).mpr (.inr ⟨fine,later⟩))

theorem firstFault_append (xs ys : List γ) (e : ε) :
    FirstFault fault (xs ++ ys) e ↔
      FirstFault fault xs e ∨ (NoFault fault xs ∧ FirstFault fault ys e) := by
  induction xs with
  | nil =>
    have nothing : ¬ FirstFault fault [] e := firstFault_nil e
    simp [nothing,NoFault]
  | cons x xs ih =>
    rw [List.cons_append,firstFault_cons,firstFault_cons,noFault_cons,ih]
    constructor
    · rintro (here | ⟨fine,later | ⟨clean,later⟩⟩)
      · exact .inl (.inl here)
      · exact .inl (.inr ⟨fine,later⟩)
      · exact .inr ⟨⟨fine,clean⟩,later⟩
    · rintro ((here | ⟨fine,later⟩) | ⟨⟨fine,clean⟩,later⟩)
      · exact .inl here
      · exact .inr ⟨fine,.inl later⟩
      · exact .inr ⟨fine,.inr ⟨clean,later⟩⟩

theorem firstFault_congr {other : γ → ε → Prop} (same : ∀ x e, fault x e ↔ other x e)
    (xs : List γ) (e : ε) : FirstFault fault xs e ↔ FirstFault other xs e := by
  rw [show fault = other from funext fun x => funext fun e => propext (same x e)]

theorem findSome_iff (search : γ → Option ε) (xs : List γ) (e : ε) :
    xs.findSome? search = some e ↔ FirstFault (fun x e => search x = some e) xs e := by
  induction xs with
  | nil => simpa using firstFault_nil e
  | cons x xs ih =>
    rw [firstFault_cons,List.findSome?_cons]
    cases here : search x with
    | some found => simp
    | none => simp [ih]

/-- A computation that fails with the first fault of a list succeeds when the list has none. -/
theorem exists_ok_iff {first : Except ε α} {xs : List γ}
    (failure : ∀ e, first = .error e ↔ FirstFault fault xs e) :
    (∃ a, first = .ok a) ↔ NoFault fault xs := by
  rw [noFault_iff]
  simp only [← failure]
  cases first with
  | ok a => simp
  | error e => simp

/-- Of two computations in sequence, the second fails only where the first has no fault. -/
theorem bind_fault_iff {first : Except ε α} {next : α → Except ε β} {xs : List γ} {e : ε} {rest : Prop}
    (failure : ∀ e, first = .error e ↔ FirstFault fault xs e)
    (later : ∀ a, first = .ok a → (next a = .error e ↔ rest)) :
    (first >>= next) = .error e ↔ FirstFault fault xs e ∨ (NoFault fault xs ∧ rest) := by
  rw [bind_error_iff,failure,← exists_ok_iff failure]
  apply or_congr_right
  constructor
  · rintro ⟨a,done,failed⟩
    exact ⟨⟨a,done⟩,(later a done).mp failed⟩
  · rintro ⟨⟨a,done⟩,failed⟩
    exact ⟨a,done,(later a done).mpr failed⟩

/-- Two computations in sequence fail with the first fault of one list, then of the other. -/
theorem bind_firstFault {first : Except ε α} {next : α → Except ε β} {xs ys : List γ}
    (failure : ∀ e, first = .error e ↔ FirstFault fault xs e)
    (later : ∀ a, first = .ok a → ∀ e, next a = .error e ↔ FirstFault fault ys e) (e : ε) :
    (first >>= next) = .error e ↔ FirstFault fault (xs ++ ys) e := by
  rw [firstFault_append]
  exact bind_fault_iff failure fun a done => later a done e

/-- Computations along a list fail with the first fault among what they are about. -/
theorem mapM_firstFault {compute : α → Except ε β} {about : α → γ}
    (failure : ∀ x e, compute x = .error e ↔ fault (about x) e) (xs : List α) (e : ε) :
    xs.mapM compute = .error e ↔ FirstFault fault (xs.map about) e := by
  induction xs generalizing e with
  | nil => simpa [List.mapM_nil,pure_not_error] using firstFault_nil e
  | cons x xs ih =>
    rw [List.mapM_cons,List.map_cons,← List.singleton_append,← List.append_nil (xs.map about)]
    apply bind_firstFault fun e => (failure x e).trans (firstFault_singleton (about x) e).symm
    intro y _
    apply bind_firstFault ih
    intro ys _ e
    exact iff_of_false (pure_not_error _ e) (firstFault_nil e)

end

end Nominal
