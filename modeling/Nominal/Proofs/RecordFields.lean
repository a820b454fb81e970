import Mathlib.Data.List.Induction
import Mathlib.Data.List.Pairwise
import Mathlib.Tactic.MkIffOfInductiveProp
import Nominal.Config.Mapping
import Nominal.Proofs.Failure

/-!
What the entries of a table must be for a record to be read from them. A record is described by its
fields, each with the spellings of its key and the way its value is read. The entries give a record when
their keys are those of its fields and no field has two entries; in which order they stand does not
matter.
-/

namespace Nominal.Config.Mapping

open Toml (Value)

section
variable {α : Type} {spellings : List String} {read : Value → Except MappingError α}

/-- The entries under one of the spellings of a key. -/
def under (spellings : List String) (entries : List (String × Value)) : List (String × Value) :=
  entries.filter fun entry => spellings.contains entry.1

/-- A field is what its only entry reads as; without an entry it is absent. -/
def Given (spellings : List String) (read : Value → Except MappingError α)
    (entries : List (String × Value)) : Option α → Prop
  | none => under spellings entries = []
  | some a => ∃ key v, under spellings entries = [(key,v)] ∧ read v = .ok a

theorem once_ok_iff (name : String) (field : Option α) (v : Value) (result : Option α) :
    once name field read v = .ok result ↔ field = none ∧ ∃ a, read v = .ok a ∧ result = some a := by
  cases field with
  | some a => simp [once]
  | none =>
    cases seen : read v with
    | error e => simp [once,seen]
    | ok a => simp [once,seen,eq_comm]

theorem given_nil (field : Option α) : Given spellings read [] field ↔ field = none := by
  cases field with
  | none => simp [Given,under]
  | some a => simp [Given,under]

theorem given_other {key : String} (other : key ∉ spellings) (entries : List (String × Value)) (v : Value)
    (field : Option α) :
    Given spellings read (entries ++ [(key,v)]) field ↔ Given spellings read entries field := by
  have same : under spellings (entries ++ [(key,v)]) = under spellings entries := by
    simp [under,other]
  cases field with
  | none => rw [Given,Given,same]
  | some a => rw [Given,Given,same]

theorem given_here {key : String} (listed : key ∈ spellings) (name : String)
    (entries : List (String × Value)) (v : Value) (field : Option α) :
    Given spellings read (entries ++ [(key,v)]) field ↔
      ∃ earlier, Given spellings read entries earlier ∧ once name earlier read v = .ok field := by
  have longer : under spellings (entries ++ [(key,v)]) = under spellings entries ++ [(key,v)] := by
    simp [under,listed]
  simp only [once_ok_iff]
  cases field with
  | none => simp [Given,longer]
  | some a =>
    simp only [Given,longer]
    constructor
    · rintro ⟨otherKey,w,only,held⟩
      obtain ⟨before,same⟩ | ⟨_,empty⟩ := List.append_eq_singleton_iff.mp only
      · cases same
        exact ⟨none,before,rfl,a,held,rfl⟩
      · cases empty
    · rintro ⟨_,before,rfl,_,held,⟨⟩⟩
      have first : under spellings entries = [] := before
      exact ⟨key,v,by rw [first,List.nil_append],held⟩

/-- An entry under a spelling of a field reads as that field. -/
theorem given_entry {entries : List (String × Value)} {field : Option α}
    (given : Given spellings read entries field) {key : String} {v : Value} (here : (key,v) ∈ entries)
    (listed : key ∈ spellings) : ∃ a, field = some a ∧ read v = .ok a := by
  have found : (key,v) ∈ under spellings entries := by simp [under,here,listed]
  cases field with
  | none =>
    rw [show under spellings entries = [] from given] at found
    cases found
  | some a =>
    obtain ⟨_,_,only,held⟩ := given
    rw [only,List.mem_singleton] at found
    cases found
    exact ⟨a,rfl,held⟩

/-- A field that is not absent has an entry. -/
theorem given_some {entries : List (String × Value)} {a : α}
    (given : Given spellings read entries (some a)) :
    ∃ key v, (key,v) ∈ entries ∧ key ∈ spellings ∧ read v = .ok a := by
  obtain ⟨key,v,only,held⟩ := given
  have here : (key,v) ∈ under spellings entries := by simp [only]
  obtain ⟨found,listed⟩ : (key,v) ∈ entries ∧ key ∈ spellings := by simpa [under] using here
  exact ⟨key,v,found,listed,held⟩

end

/-- A field of a record whose fields are met one by one. -/
structure RecordField (F : Type) where
  {Content : Type}
  name : String
  /-- Other spellings of the key. -/
  aliases : List String := []
  read : Value → Except MappingError Content
  get : F → Option Content
  set : F → Option Content → F

namespace RecordField

variable {F : Type}

def spellings (field : RecordField F) : List String := field.name :: field.aliases

/-- What the record has in the field is what the entries give. -/
def GivenBy (field : RecordField F) (entries : List (String × Value)) (f : F) : Prop :=
  Given field.spellings field.read entries (field.get f)

/-- Two fields of one record do not share a key, and setting one leaves the other as it is. -/
@[mk_iff]
structure Apart (a b : RecordField F) : Prop where
  keys : ∀ key ∈ a.spellings, key ∉ b.spellings
  left : ∀ f x, a.get (b.set f x) = a.get f
  right : ∀ f x, b.get (a.set f x) = b.get f

instance : Std.Symm (Apart : RecordField F → RecordField F → Prop) where
  symm _ _ apart := ⟨fun key here there => apart.keys key there here,apart.right,apart.left⟩

end RecordField

/-- The fields of a record, and the visit to an entry by which they are met. -/
structure Meets {F : Type} (fields : List (RecordField F)) (owner : Record) (start : F)
    (visit : F → String × Value → Except MappingError F) : Prop where
  blank : ∀ field ∈ fields, field.get start = none
  apart : fields.Pairwise RecordField.Apart
  set : ∀ field ∈ fields, ∀ f x, field.get (field.set f x) = x
  whole : ∀ f g, (∀ field ∈ fields, field.get f = field.get g) → f = g
  known : ∀ field ∈ fields, ∀ key ∈ field.spellings, ∀ f v,
    visit f (key,v) = (field.set f <$> once field.name (field.get f) field.read v)
  unknown : ∀ key, (∀ field ∈ fields, key ∉ field.spellings) → ∀ f v,
    visit f (key,v) = .error (.unknownField key owner)

/-- The entries give the record: their keys are those of its fields, and each field is given. -/
structure Written {F : Type} (fields : List (RecordField F)) (entries : List (String × Value)) (f : F) :
    Prop where
  keys : ∀ entry ∈ entries, ∃ field ∈ fields, entry.1 ∈ field.spellings
  fields : ∀ field ∈ fields, field.GivenBy entries f

section
variable {F : Type} {fields : List (RecordField F)} {owner : Record} {start : F}
  {visit : F → String × Value → Except MappingError F}

theorem written_nil (meets : Meets fields owner start visit) (f : F) :
    Written fields [] f ↔ f = start := by
  constructor
  · intro written
    apply meets.whole
    intro field listed
    rw [meets.blank field listed]
    exact (given_nil _).mp (written.fields field listed)
  · rintro rfl
    refine ⟨by simp,?_⟩
    intro field listed
    exact (given_nil _).mpr (meets.blank field listed)

/-- What is set under a key concerns no other field. -/
theorem other_field (meets : Meets fields owner start visit) {field here : RecordField F}
    (inside : field ∈ fields) (listed : here ∈ fields) (differs : field ≠ here) {key : String}
    (spelled : key ∈ here.spellings) :
    key ∉ field.spellings ∧ ∀ f x, field.get (here.set f x) = field.get f := by
  have apart : field.Apart here := meets.apart.forall inside listed differs
  exact ⟨fun also => apart.keys key also spelled,apart.left⟩

/-- A visit to one more entry gives what the entries give together with it. -/
theorem written_visit (meets : Meets fields owner start visit) {entries : List (String × Value)}
    {key : String} {v : Value} {f g : F} (written : Written fields entries f)
    (visited : visit f (key,v) = .ok g) : Written fields (entries ++ [(key,v)]) g := by
  obtain ⟨here,listed,spelled⟩ : ∃ field ∈ fields, key ∈ field.spellings := by
    by_contra strange
    rw [meets.unknown key fun field listed spelled => strange ⟨field,listed,spelled⟩] at visited
    cases visited
  rw [meets.known here listed key spelled] at visited
  obtain ⟨content,set,rfl⟩ := (map_ok_iff _ _ _).mp visited
  constructor
  · intro entry inside
    rcases List.mem_append.mp inside with earlier | last
    · exact written.keys entry earlier
    · rw [List.mem_singleton.mp last]
      exact ⟨here,listed,spelled⟩
  · intro field inside
    by_cases same : field = here
    · subst same
      rw [RecordField.GivenBy,meets.set field listed]
      exact (given_here spelled field.name entries v content).mpr ⟨_,written.fields field inside,set⟩
    · obtain ⟨other,kept⟩ := other_field meets inside listed same spelled
      rw [RecordField.GivenBy,kept]
      exact (given_other other entries v _).mpr (written.fields field inside)

/-- What entries give comes from a visit to the last of them. -/
theorem visit_of_written (meets : Meets fields owner start visit)
    {entries : List (String × Value)} {key : String} {v : Value} {g : F}
    (written : Written fields (entries ++ [(key,v)]) g) :
    ∃ f, Written fields entries f ∧ visit f (key,v) = .ok g := by
  obtain ⟨here,listed,spelled⟩ := written.keys (key,v) (by simp)
  obtain ⟨earlier,before,set⟩ :=
    (given_here spelled here.name entries v _).mp (written.fields here listed)
  -- Before the visit the field of the entry was absent and the others were as they are.
  refine ⟨here.set g earlier,⟨?_,?_⟩,?_⟩
  · intro entry inside
    exact written.keys entry (List.mem_append_left _ inside)
  · intro field inside
    by_cases same : field = here
    · subst same
      rw [RecordField.GivenBy,meets.set field listed]
      exact before
    · obtain ⟨other,kept⟩ := other_field meets inside listed same spelled
      rw [RecordField.GivenBy,kept]
      exact (given_other other entries v _).mp (written.fields field inside)
  · rw [meets.known here listed key spelled,meets.set here listed]
    refine (map_ok_iff _ _ _).mpr ⟨here.get g,set,?_⟩
    apply meets.whole
    intro field inside
    by_cases same : field = here
    · subst same
      rw [meets.set field listed]
    · obtain ⟨_,kept⟩ := other_field meets inside listed same spelled
      rw [kept,kept]

/-- The entries that are visited without a fault are those that give the record. -/
theorem visits_ok_iff (meets : Meets fields owner start visit) (entries : List (String × Value))
    (f : F) : entries.foldlM visit start = .ok f ↔ Written fields entries f := by
  induction entries using List.reverseRecOn generalizing f with
  | nil => rw [List.foldlM_nil,pure_ok_iff,written_nil meets,eq_comm]
  | append_singleton entries entry ih =>
    simp only [List.foldlM_append,bind_ok_iff,ih,List.foldlM_cons,List.foldlM_nil,bind_pure]
    constructor
    · rintro ⟨earlier,written,visited⟩
      exact written_visit meets written visited
    · exact visit_of_written meets

/-- A record is read from entries that give its fields, by finishing what they give. -/
theorem finished_ok_iff {α : Type} (meets : Meets fields owner start visit) (entries : List (String × Value))
    (finish : F → Except MappingError α) (a : α) :
    entries.foldlM visit start >>= finish = .ok a ↔ ∃ f, Written fields entries f ∧ finish f = .ok a := by
  simp only [bind_ok_iff,visits_ok_iff meets]

end

section
variable {α : Type} {v : Value}

theorem string_ok_iff {s : String} : string v = .ok s ↔ v = .string s := by
  cases v <;> simp [string]

theorem path_ok_iff {s : String} : path v = .ok s ↔ v = .string s := by
  cases v <;> simp [path]

theorem boolean_ok_iff {b : Bool} : boolean v = .ok b ↔ v = .boolean b := by
  cases v <;> simp [boolean]

theorem list_ok_iff {item : Value → Except MappingError α} {xs : List α} :
    list item v = .ok xs ↔ ∃ items, v = .array items ∧ items.mapM item = .ok xs := by
  cases v <;> simp [list]

end

/-- The fields of a method. -/
def methodFields : List (RecordField MethodFields) :=
  [{ name := "name", read := string, get := (·.name), set := fun f x => { f with name := x } },
   { name := "params", read := list string, get := (·.params), set := fun f x => { f with params := x } },
   { name := "returns", read := string, get := (·.returns), set := fun f x => { f with returns := x } }]

theorem method_meets : Meets methodFields .methodEntry {} MethodFields.visit where
  blank := by simp [methodFields]
  apart := by simp [methodFields,RecordField.apart_iff,RecordField.spellings]
  set := by simp [methodFields]
  whole := by
    rintro ⟨_,_,_⟩ ⟨_,_,_⟩ same
    simpa [methodFields] using same
  known := by simp [methodFields,RecordField.spellings,MethodFields.visit]
  unknown := by
    intro key strange f v
    simp [methodFields,RecordField.spellings] at strange
    unfold MethodFields.visit
    dsimp only
    split <;> first | rfl | simp at strange

/-- The fields of a class. -/
def classFields : List (RecordField ClassFields) :=
  [{ name := "name", read := string, get := (·.name), set := fun f x => { f with name := x } },
   { name := "superclass", aliases := ["extends"], read := string, get := (·.superclass)
     set := fun f x => { f with superclass := x } },
   { name := "constructor", read := list string, get := (·.constructor)
     set := fun f x => { f with constructor := x } },
   { name := "methods", read := list methodEntry, get := (·.methods)
     set := fun f x => { f with methods := x } }]

theorem class_meets : Meets classFields .classEntry {} ClassFields.visit where
  blank := by simp [classFields]
  apart := by simp [classFields,RecordField.apart_iff,RecordField.spellings]
  set := by simp [classFields]
  whole := by
    rintro ⟨_,_,_,_⟩ ⟨_,_,_,_⟩ same
    simpa [classFields] using same
  known := by simp [classFields,RecordField.spellings,ClassFields.visit]
  unknown := by
    intro key strange f v
    simp [classFields,RecordField.spellings] at strange
    unfold ClassFields.visit
    dsimp only
    split <;> first | rfl | simp at strange

/-- The logging settings. -/
def loggingFields : List (RecordField LoggingFields) :=
  [{ name := "level", read := string, get := (·.level), set := fun f x => { f with level := x } },
   { name := "json", read := boolean, get := (·.json), set := fun f x => { f with json := x } },
   { name := "stderr", read := boolean, get := (·.stderr), set := fun f x => { f with stderr := x } },
   { name := "file", read := path, get := (·.file), set := fun f x => { f with file := x } }]

theorem logging_meets : Meets loggingFields .logging {} LoggingFields.visit where
  blank := by simp [loggingFields]
  apart := by simp [loggingFields,RecordField.apart_iff,RecordField.spellings]
  set := by simp [loggingFields]
  whole := by
    rintro ⟨_,_,_,_⟩ ⟨_,_,_,_⟩ same
    simpa [loggingFields] using same
  known := by simp [loggingFields,RecordField.spellings,LoggingFields.visit]
  unknown := by
    intro key strange f v
    simp [loggingFields,RecordField.spellings] at strange
    unfold LoggingFields.visit
    dsimp only
    split <;> first | rfl | simp at strange

/-- The parts of a configuration. -/
def configFields : List (RecordField ConfigFields) :=
  [{ name := "logging", read := logging, get := (·.logging), set := fun f x => { f with logging := x } },
   { name := "classes", read := list classEntry, get := (·.classes)
     set := fun f x => { f with classes := x } }]

theorem config_meets : Meets configFields .config {} ConfigFields.visit where
  blank := by simp [configFields]
  apart := by simp [configFields,RecordField.apart_iff,RecordField.spellings]
  set := by simp [configFields]
  whole := by
    rintro ⟨_,_⟩ ⟨_,_⟩ same
    simpa [configFields] using same
  known := by simp [configFields,RecordField.spellings,ConfigFields.visit]
  unknown := by
    intro key strange f v
    simp [configFields,RecordField.spellings] at strange
    unfold ConfigFields.visit
    dsimp only
    split <;> first | rfl | simp at strange

end Nominal.Config.Mapping
