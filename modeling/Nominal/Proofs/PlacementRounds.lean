import Nominal.Proofs.InheritanceOrder

/-!
The entries of a class table put in order by rounds. In a round every entry that waits is met in turn and
is placed if it is ready, which counts at once for the entries after it. Rounds follow one another until no
entry waits or a round has placed nothing. Nothing bounds their number from outside: a round after which
another follows has placed an entry, so they come to an end, with the order of `inheritanceOrder` or with
its failure.
-/

namespace Nominal.Config

/-- The rounds under way: the names that are placed, the entries in the order in which they were placed,
    and those that wait. -/
structure Placing where
  placed : List String
  ordered : List ClassEntry
  pending : List ClassEntry

namespace Placing

/-- At first every entry waits. -/
def start (entries : List ClassEntry) : Placing := ⟨[],[],entries⟩

/-- An entry is met: it is placed if it is ready, and goes on waiting if it is not. -/
def meet (declared : List String) (s : Placing) (entry : ClassEntry) : Placing :=
  if isReady declared s.placed entry then
    { s with placed := entry.name :: s.placed, ordered := s.ordered ++ [entry] }
  else { s with pending := s.pending ++ [entry] }

/-- One round. -/
def round (declared : List String) (s : Placing) : Placing :=
  s.pending.foldl (meet declared) { s with pending := [] }

/-- Entries wait, and a round changes their number, so that the loop goes on. -/
def Continues (declared : List String) (s next : Placing) : Prop :=
  s.pending ≠ [] ∧ next = s.round declared ∧ next.pending.length ≠ s.pending.length

/-- After so many rounds there is a result: the order if no entry waits, a failure if as many wait after a
    round as before it. -/
inductive Ends (declared : List String) : Nat → Placing → Except BuildError (List ClassEntry) → Prop
  | finished {s : Placing} : s.pending = [] → Ends declared 0 s (.ok s.ordered)
  | halted {s : Placing} : s.pending ≠ [] → (s.round declared).pending.length = s.pending.length →
      Ends declared 1 s (.error (.superclassCycle ((s.round declared).pending.map (·.name)).mergeSort))
  | continued {s next : Placing} {rounds : Nat} {result : Except BuildError (List ClassEntry)} :
      s.Continues declared next → Ends declared rounds next result → Ends declared (rounds + 1) s result

section
variable {declared : List String}

/-! ### One round -/

/-- Of the names that are placed only their presence counts. -/
theorem placeReady_congr {one other : List String} (same : ∀ name, name ∈ one ↔ name ∈ other)
    (waiting : List ClassEntry) : placeReady declared one waiting = placeReady declared other waiting := by
  induction waiting generalizing one other with
  | nil => rfl
  | cons entry rest ih =>
    have ready : isReady declared one entry = isReady declared other entry := by
      rw [Bool.eq_iff_iff,isReady_iff,isReady_iff]
      simp only [Ready,same]
    have after : ∀ name, name ∈ entry.name :: one ↔ name ∈ entry.name :: other := by
      simp only [List.mem_cons,same,implies_true]
    rw [placeReady,placeReady,ready,ih after,ih same]

/-- Entries met in turn are placed, or left waiting, as by a pass over them. -/
theorem foldl_meet (waiting : List ClassEntry) (s : Placing) :
    waiting.foldl (meet declared) s =
      ⟨((placeReady declared s.placed waiting).1.map (·.name)).reverse ++ s.placed,
        s.ordered ++ (placeReady declared s.placed waiting).1,
        s.pending ++ (placeReady declared s.placed waiting).2⟩ := by
  induction waiting generalizing s with
  | nil => simp [placeReady]
  | cons entry rest ih =>
    rw [List.foldl_cons,ih,placeReady]
    by_cases ready : isReady declared s.placed entry
    · simp [meet,ready]
    · simp [meet,ready]

theorem round_eq (s : Placing) :
    s.round declared =
      ⟨((placeReady declared s.placed s.pending).1.map (·.name)).reverse ++ s.placed,
        s.ordered ++ (placeReady declared s.placed s.pending).1,
        (placeReady declared s.placed s.pending).2⟩ := by
  rw [round,foldl_meet,List.nil_append]

/-- A round moves entries from those that wait to those that are placed. -/
theorem round_length (declared : List String) (s : Placing) :
    (placeReady declared s.placed s.pending).1.length + (s.round declared).pending.length =
      s.pending.length := by
  rw [round_eq]
  exact length_placeReady declared s.placed s.pending

theorem continues_shrinks {s next : Placing} (continues : s.Continues declared next) :
    next.pending.length < s.pending.length := by
  obtain ⟨_,rfl,changed⟩ := continues
  have total := round_length declared s
  omega

/-! ### All rounds -/

theorem ends_unique {s : Placing} {rounds others : Nat} {result other : Except BuildError (List ClassEntry)}
    (first : Ends declared rounds s result) (second : Ends declared others s other) :
    rounds = others ∧ result = other := by
  induction first generalizing others other with
  | finished none_waits =>
    cases second with
    | finished => exact ⟨rfl,rfl⟩
    | halted some_wait => exact absurd none_waits some_wait
    | continued continues => exact absurd none_waits continues.1
  | halted some_wait same =>
    cases second with
    | finished none_waits => exact absurd none_waits some_wait
    | halted => exact ⟨rfl,rfl⟩
    | continued continues =>
      obtain ⟨_,rfl,changed⟩ := continues
      exact absurd same changed
  | continued continues _ ih =>
    obtain ⟨some_wait,rfl,changed⟩ := continues
    cases second with
    | finished none_waits => exact absurd none_waits some_wait
    | halted _ same => exact absurd same changed
    | continued again later =>
      obtain ⟨_,rfl,_⟩ := again
      obtain ⟨rfl,rfl⟩ := ih later
      exact ⟨rfl,rfl⟩

/-- Rounds come to an end wherever they are taken up, with what `placeAll` gives for the entries that wait.
    The names placed may be listed in any way, for a round lists them in another order than a pass. -/
theorem ends_placeAll (declared placed : List String) (waiting : List ClassEntry) (s : Placing)
    (pending : s.pending = waiting) (same : ∀ name, name ∈ s.placed ↔ name ∈ placed) :
    ∃ rounds ≤ waiting.length,
      Ends declared rounds s ((placeAll declared placed waiting).map (s.ordered ++ ·)) := by
  fun_induction placeAll declared placed waiting generalizing s with
  | case1 placed =>
    refine ⟨0,Nat.zero_le _,?_⟩
    rw [Except.map,List.append_nil]
    exact .finished pending
  | case2 placed waiting pass some_waiting nothing =>
    have left : (s.round declared).pending = pass.2 := by
      rw [round_eq,pending,placeReady_congr same]
    have total := length_placeReady declared placed waiting
    have unmoved : (s.round declared).pending.length = s.pending.length := by
      rw [left,pending,← total,nothing,List.length_nil,Nat.zero_add]
    refine ⟨1,List.length_pos_iff.mpr some_waiting,?_⟩
    rw [Except.map,← left]
    exact .halted (pending ▸ some_waiting) unmoved
  | case3 placed waiting pass some_waiting progress ih =>
    have moved : s.round declared =
        ⟨(pass.1.map (·.name)).reverse ++ s.placed,s.ordered ++ pass.1,pass.2⟩ := by
      rw [round_eq,pending,placeReady_congr same]
    have total : pass.1.length + pass.2.length = waiting.length := length_placeReady declared placed waiting
    have some_placed : 0 < pass.1.length := List.length_pos_iff.mpr progress
    have continues : s.Continues declared (s.round declared) := by
      refine ⟨pending ▸ some_waiting,rfl,?_⟩
      simp only [moved,pending]
      omega
    obtain ⟨rounds,few,ends⟩ := ih (s.round declared) (by rw [moved]) (by simp [moved,same])
    refine ⟨rounds + 1,by omega,.continued continues ?_⟩
    rw [moved] at ends ⊢
    cases later : placeAll declared (pass.1.map (·.name) ++ placed) pass.2 with
    | error err => simpa [later,Except.map] using ends
    | ok order => simpa [later,Except.map,List.append_assoc] using ends

end

/-- From the first round on there is one result, that of `placeAll`. -/
theorem ends_start_iff (declared : List String) (entries : List ClassEntry)
    (result : Except BuildError (List ClassEntry)) :
    (∃ rounds ≤ entries.length, Ends declared rounds (start entries) result) ↔
      placeAll declared [] entries = result := by
  obtain ⟨rounds,few,ends⟩ :=
    ends_placeAll declared [] entries (start entries) rfl fun _ => Iff.rfl
  have plain : (placeAll declared [] entries).map ((start entries).ordered ++ ·) =
      placeAll declared [] entries := by
    cases placeAll declared [] entries <;> rfl
  rw [plain] at ends
  constructor
  · rintro ⟨others,_,again⟩
    exact (ends_unique ends again).2
  · rintro rfl
    exact ⟨rounds,few,ends⟩

end Placing

theorem inheritanceOrder_eq_placeAll {entries : List ClassEntry} (clean : NoFault (Orphan entries) entries) :
    inheritanceOrder entries = placeAll (entries.map (·.name)) [] entries := by
  simp only [inheritanceOrder,(unknownSuperclass_none_iff entries).mpr clean]

theorem inheritanceOrder_error_kind {entries : List ClassEntry} {err : BuildError}
    (failed : inheritanceOrder entries = .error err) :
    (∃ name superclass, err = .unknownSuperclass name superclass) ∨ ∃ names, err = .superclassCycle names := by
  rcases (inheritanceOrder_error_iff entries err).mp failed with ⟨_,entry,_,_,_,orphan⟩ | ⟨_,_,rfl⟩
  · cases orphan with
    | unknown => exact .inl ⟨_,_,rfl⟩
  · exact .inr ⟨_,rfl⟩

/-- Putting entries in order ends and sorts. Every round after which the loop goes on leaves fewer entries
    waiting, so with all superclasses known there are at most as many rounds as entries, and their result is
    that of `inheritanceOrder`. It fails for an unknown superclass or a cycle only, and an order that it
    gives has every entry once, behind an entry of its superclass's name if the table has one. -/
theorem inheritanceOrder_sorts (entries : List ClassEntry) :
    (∀ s next : Placing, s.Continues (entries.map (·.name)) next → next.pending.length < s.pending.length) ∧
    (NoFault (Orphan entries) entries → ∀ result,
      (∃ rounds ≤ entries.length, Placing.Ends (entries.map (·.name)) rounds (.start entries) result) ↔
        inheritanceOrder entries = result) ∧
    (∀ err, inheritanceOrder entries = .error err →
      (∃ name superclass, err = .unknownSuperclass name superclass) ∨ ∃ names, err = .superclassCycle names) ∧
    ∀ ordered, inheritanceOrder entries = .ok ordered → Arrangement entries ordered := by
  refine ⟨fun _ _ => Placing.continues_shrinks,?_,fun _ => inheritanceOrder_error_kind,?_⟩
  · intro clean result
    rw [inheritanceOrder_eq_placeAll clean]
    exact Placing.ends_start_iff _ entries result
  · intro ordered found
    exact (inheritanceOrder_ok found).2

/-- A class before its superclass, a name that two entries bear, one of them with itself as superclass, and
    the name of a built-in class. -/
def repeatedNames : List ClassEntry :=
  [{ name := "Dog", superclass := some "Animal" }, { name := "Animal" },
   { name := "Animal", superclass := some "Animal" }, { name := "String", superclass := some "Object" }]

theorem repeatedNames_sorted :
    inheritanceOrder repeatedNames =
        .ok [{ name := "Animal" }, { name := "Animal", superclass := some "Animal" },
          { name := "String", superclass := some "Object" }, { name := "Dog", superclass := some "Animal" }] ∧
      (∃ rounds ≤ 4, Placing.Ends (repeatedNames.map (·.name)) rounds (.start repeatedNames)
        (inheritanceOrder repeatedNames)) ∧
      ∃ ordered, Arrangement repeatedNames ordered := by
  obtain ⟨_,rounds,_,sorts⟩ := inheritanceOrder_sorts repeatedNames
  have found : inheritanceOrder repeatedNames =
      .ok [{ name := "Animal" }, { name := "Animal", superclass := some "Animal" },
        { name := "String", superclass := some "Object" }, { name := "Dog", superclass := some "Animal" }] := by
    decide +kernel
  exact ⟨found,(rounds (inheritanceOrder_ok found).1 _).mpr rfl,_,sorts _ found⟩

end Nominal.Config
