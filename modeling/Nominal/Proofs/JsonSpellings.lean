import Nominal.Config.Build
import Nominal.Config.JsonForm
import Nominal.Proofs.Failure

/-!
The ways to write a configuration as JSON. A field may be left out where its content is the default, the
superclass of a class may stand under either of its two keys, and the members of an object may come in any
order. However many of these liberties are taken, and at whatever depth, what is read is the configuration
that was written.
-/

namespace Nominal

namespace Json

/-- How a field may be written: under which keys, in which forms, and whether it may be left out. -/
structure FieldForm where
  spellings : List String
  Form : Json → Prop
  Omissible : Prop

/-- The members write the fields in their order, each under one of its keys or, where it may be, not at all. -/
inductive Writes : List FieldForm → List (String × Json) → Prop
  | nil : Writes [] []
  | given {field : FieldForm} {fields : List FieldForm} {key : String} {v : Json} {members : List (String × Json)} :
      key ∈ field.spellings → field.Form v → Writes fields members → Writes (field :: fields) ((key,v) :: members)
  | omitted {field : FieldForm} {fields : List FieldForm} {members : List (String × Json)} :
      field.Omissible → Writes fields members → Writes (field :: fields) members

/-- An object that writes the fields, with its members in any order. -/
def IsObject (fields : List FieldForm) (j : Json) : Prop :=
  ∃ members written, j = .object members ∧ members.Perm written ∧ Writes fields written

/-- An array whose items write the members of the list, in order. -/
def IsArray {α : Type} (Writes : α → Json → Prop) (xs : List α) (j : Json) : Prop :=
  ∃ items, j = .array items ∧ List.Forall₂ Writes xs items

/-! ### What the fields of a record are found to be -/

/-- The members under one of the keys. -/
def under (names : List String) (members : List (String × Json)) : List (String × Json) :=
  members.filter fun member => names.contains member.1

/-- What is found under the keys of a field: the value of its only member, or nothing. -/
def Found (names : List String) (members : List (String × Json)) : Option Json → Prop
  | none => under names members = []
  | some v => ∃ key, under names members = [(key,v)]

/-- What is found for a field is a form of it. -/
def FieldForm.Fits (field : FieldForm) : Option Json → Prop
  | none => field.Omissible
  | some v => field.Form v

section
variable {names : List String} {members others : List (String × Json)} {fields : List FieldForm}

theorem fields_object {spellings : List (List String)} {found : List (Option Json)}
    (keys : ∀ member ∈ members, ∃ names ∈ spellings, member.1 ∈ names)
    (each : List.Forall₂ (fun names content => Found names members content) spellings found) :
    fields? spellings (.object members) = some found := by
  have known : (members.all fun member => spellings.any (·.contains member.1)) = true := by
    simpa using keys
  rw [fields?,if_pos known,mapM_some_iff]
  refine each.imp ?_
  intro names content here
  cases content with
  | none =>
    have nothing : members.filter (fun member => names.contains member.1) = [] := here
    rw [nothing]
  | some v =>
    obtain ⟨key,only⟩ := here
    have single : members.filter (fun member => names.contains member.1) = [(key,v)] := only
    rw [single]

theorem found_perm (perm : members.Perm others) {content : Option Json} (found : Found names others content) :
    Found names members content := by
  have same : (under names members).Perm (under names others) := perm.filter _
  cases content with
  | none =>
    have nothing : under names others = [] := found
    rw [nothing] at same
    exact same.eq_nil
  | some v =>
    obtain ⟨key,only⟩ := found
    rw [only] at same
    exact ⟨key,same.eq_singleton⟩

theorem writes_keys (writes : Writes fields members) :
    ∀ member ∈ members, ∃ field ∈ fields, member.1 ∈ field.spellings := by
  induction writes with
  | nil => simp
  | @given field fields key v members listed _ _ ih =>
    intro member inside
    rcases List.mem_cons.mp inside with rfl | later
    · exact ⟨field,List.mem_cons_self,listed⟩
    · obtain ⟨other,there,spelt⟩ := ih member later
      exact ⟨other,List.mem_cons_of_mem _ there,spelt⟩
  | omitted _ _ ih =>
    intro member inside
    obtain ⟨other,there,spelt⟩ := ih member inside
    exact ⟨other,List.mem_cons_of_mem _ there,spelt⟩

/-- Under keys that no field has, nothing is written. -/
theorem writes_none (writes : Writes fields members)
    (apart : ∀ field ∈ fields, ∀ key ∈ names, key ∉ field.spellings) : under names members = [] := by
  rw [under,List.filter_eq_nil_iff]
  intro member inside listed
  obtain ⟨field,there,spelt⟩ := writes_keys writes member inside
  exact apart field there member.1 (by simpa using listed) spelt

/-- What members write is found again, field by field. -/
theorem writes_found (writes : Writes fields members)
    (apart : fields.Pairwise fun a b => ∀ key ∈ a.spellings, key ∉ b.spellings) :
    ∃ found, List.Forall₂ (fun field content => Found field.spellings members content ∧ field.Fits content)
      fields found := by
  induction writes with
  | nil => exact ⟨[],.nil⟩
  | @given field fields key v members listed form rest ih =>
    obtain ⟨first,later⟩ := List.pairwise_cons.mp apart
    obtain ⟨found,each⟩ := ih later
    have nothing : under field.spellings members = [] := writes_none rest first
    have here : under field.spellings ((key,v) :: members) = [(key,v)] := by
      rw [under,List.filter_cons_of_pos (by simpa using listed),← under,nothing]
    refine ⟨some v :: found,.cons ⟨⟨key,here⟩,form⟩ ?_⟩
    -- The key of the first field is none of the keys of the others.
    have others : ∀ other ∈ fields, key ∉ other.spellings := fun other there => first other there key listed
    refine ((List.forall₂_and_left _ _).mpr ⟨others,each⟩).imp ?_
    rintro other content ⟨strange,there,fits⟩
    have same : under other.spellings ((key,v) :: members) = under other.spellings members := by
      rw [under,List.filter_cons_of_neg (by simpa using strange),← under]
    refine ⟨?_,fits⟩
    cases content with
    | none => rwa [Found,same]
    | some w => rwa [Found,same]
  | @omitted field fields members left rest ih =>
    obtain ⟨first,later⟩ := List.pairwise_cons.mp apart
    obtain ⟨found,each⟩ := ih later
    exact ⟨none :: found,.cons ⟨writes_none rest first,left⟩ each⟩

/-- The reader of an object finds a form of each field. -/
theorem isObject_found {j : Json} (written : IsObject fields j)
    (apart : fields.Pairwise fun a b => ∀ key ∈ a.spellings, key ∉ b.spellings) :
    ∃ found, fields? (fields.map (·.spellings)) j = some found ∧ List.Forall₂ FieldForm.Fits fields found := by
  obtain ⟨members,ordered,rfl,perm,writes⟩ := written
  obtain ⟨found,each⟩ := writes_found writes apart
  refine ⟨found,fields_object ?_ ?_,each.imp fun _ _ both => both.2⟩
  · intro member inside
    obtain ⟨field,listed,spelt⟩ := writes_keys writes member (perm.mem_iff.mp inside)
    exact ⟨field.spellings,List.mem_map_of_mem listed,spelt⟩
  · rw [List.forall₂_map_left_iff]
    exact each.imp fun _ _ both => found_perm perm both.1

/-- A field is read as its content, written or left out. -/
theorem fieldD_fits {α : Type} {field : FieldForm} {content : Option Json} {default a : α}
    {read : Json → Option α} (fits : field.Fits content) (reads : ∀ v, field.Form v → read v = some a)
    (omitted : field.Omissible → default = a) : fieldD default read content = some a := by
  cases content with
  | none => exact congrArg some (omitted fits)
  | some v => exact reads v fits

/-- A name that must be written is read. -/
theorem name_fits {names : List String} {name : String} {content : Option Json}
    (fits : FieldForm.Fits ⟨names,(· = .string name),False⟩ content) : content.bind (·.string?) = some name := by
  cases content with
  | none => exact False.elim fits
  | some v =>
    have written : v = .string name := fits
    rw [written]
    rfl

theorem list_isArray {α : Type} {Writes : α → Json → Prop} {item : Json → Option α} {xs : List α} {j : Json}
    (reads : ∀ x v, Writes x v → item v = some x) (written : IsArray Writes xs j) :
    list? item j = some xs := by
  obtain ⟨items,rfl,each⟩ := written
  rw [list?,mapM_some_iff]
  exact List.Forall₂.flip (each.imp reads)

theorem list_strings (xs : List String) : (strings xs).list? (·.string?) = some xs := by
  rw [strings,list?,mapM_some_iff,List.forall₂_map_left_iff]
  exact List.forall₂_same.mpr fun _ _ => rfl

theorem nullableString_ofString (s : Option String) : (ofString? s).nullableString? = some s := by
  cases s with
  | none => rfl
  | some s => rfl

end

end Json

/-! ### Configurations -/

open Json (IsObject IsArray)

/-- The ways to write a method. -/
def MethodEntry.Spelt (m : MethodEntry) : Json → Prop :=
  IsObject
    [⟨["name"],(· = .string m.name),False⟩,
     ⟨["params"],(· = .strings m.params),m.params = []⟩,
     ⟨["returns"],(· = .string m.returns),m.returns = "void"⟩]

/-- The ways to write a class. -/
def ClassEntry.Spelt (c : ClassEntry) : Json → Prop :=
  IsObject
    [⟨["name"],(· = .string c.name),False⟩,
     ⟨["superclass","extends"],(· = .ofString? c.superclass),c.superclass = none⟩,
     ⟨["constructor"],(· = .strings c.constructor),c.constructor = []⟩,
     ⟨["methods"],IsArray MethodEntry.Spelt c.methods,c.methods = []⟩]

/-- The ways to write the logging settings. -/
def LoggingConfig.Spelt (l : LoggingConfig) : Json → Prop :=
  IsObject
    [⟨["level"],(· = .string l.level),l.level = "info"⟩,
     ⟨["json"],(· = .boolean l.json),l.json = false⟩,
     ⟨["stderr"],(· = .boolean l.stderr),l.stderr = true⟩,
     ⟨["file"],(· = .ofString? l.file),l.file = none⟩]

/-- The ways to write a configuration. -/
def Config.Spelt (c : Config) : Json → Prop :=
  IsObject
    [⟨["logging"],c.logging.Spelt,c.logging = ⟨"info",false,true,none⟩⟩,
     ⟨["classes"],IsArray ClassEntry.Spelt c.classes,c.classes = []⟩]

theorem MethodEntry.ofJson_spelt {m : MethodEntry} {j : Json} (spelt : m.Spelt j) : ofJson? j = some m := by
  obtain ⟨found,read,fits⟩ := Json.isObject_found spelt (by simp)
  rcases fits with _ | ⟨name,_ | ⟨params,_ | ⟨returns,_ | _⟩⟩⟩
  have nameRead := Json.name_fits name
  have paramsRead : Json.fieldD [] (·.list? (·.string?)) _ = some m.params :=
    Json.fieldD_fits params (by rintro _ ⟨⟩; exact Json.list_strings m.params) Eq.symm
  have returnsRead : Json.fieldD "void" (·.string?) _ = some m.returns :=
    Json.fieldD_fits returns (by rintro _ ⟨⟩; rfl) Eq.symm
  simp only [List.map_cons,List.map_nil] at read
  simp [ofJson?,read,nameRead,paramsRead,returnsRead]

theorem ClassEntry.ofJson_spelt {c : ClassEntry} {j : Json} (spelt : c.Spelt j) : ofJson? j = some c := by
  obtain ⟨found,read,fits⟩ := Json.isObject_found spelt (by simp)
  rcases fits with _ | ⟨name,_ | ⟨superclass,_ | ⟨constructor,_ | ⟨methods,_ | _⟩⟩⟩⟩
  have nameRead := Json.name_fits name
  have superclassRead : Json.fieldD none (·.nullableString?) _ = some c.superclass :=
    Json.fieldD_fits superclass (by rintro _ ⟨⟩; exact Json.nullableString_ofString c.superclass) Eq.symm
  have constructorRead : Json.fieldD [] (·.list? (·.string?)) _ = some c.constructor :=
    Json.fieldD_fits constructor (by rintro _ ⟨⟩; exact Json.list_strings c.constructor) Eq.symm
  have methodsRead : Json.fieldD [] (·.list? MethodEntry.ofJson?) _ = some c.methods :=
    Json.fieldD_fits methods (fun _ => Json.list_isArray fun _ _ => MethodEntry.ofJson_spelt) Eq.symm
  simp only [List.map_cons,List.map_nil] at read
  simp [ofJson?,read,nameRead,superclassRead,constructorRead,methodsRead]

theorem LoggingConfig.ofJson_spelt {l : LoggingConfig} {j : Json} (spelt : l.Spelt j) : ofJson? j = some l := by
  obtain ⟨found,read,fits⟩ := Json.isObject_found spelt (by simp)
  rcases fits with _ | ⟨level,_ | ⟨json,_ | ⟨stderr,_ | ⟨file,_ | _⟩⟩⟩⟩
  have levelRead : Json.fieldD "info" (·.string?) _ = some l.level :=
    Json.fieldD_fits level (by rintro _ ⟨⟩; rfl) Eq.symm
  have jsonRead : Json.fieldD false (·.boolean?) _ = some l.json :=
    Json.fieldD_fits json (by rintro _ ⟨⟩; rfl) Eq.symm
  have stderrRead : Json.fieldD true (·.boolean?) _ = some l.stderr :=
    Json.fieldD_fits stderr (by rintro _ ⟨⟩; rfl) Eq.symm
  have fileRead : Json.fieldD none (·.nullableString?) _ = some l.file :=
    Json.fieldD_fits file (by rintro _ ⟨⟩; exact Json.nullableString_ofString l.file) Eq.symm
  simp only [List.map_cons,List.map_nil] at read
  simp [ofJson?,read,levelRead,jsonRead,stderrRead,fileRead]

namespace Config

theorem ofJson_spelt {c : Config} {j : Json} (spelt : c.Spelt j) : ofJson? j = some c := by
  obtain ⟨found,read,fits⟩ := Json.isObject_found spelt (by simp)
  rcases fits with _ | ⟨logging,_ | ⟨classes,_ | _⟩⟩
  have loggingRead : Json.fieldD {} LoggingConfig.ofJson? _ = some c.logging :=
    Json.fieldD_fits logging (fun _ => LoggingConfig.ofJson_spelt) Eq.symm
  have classesRead : Json.fieldD [] (·.list? ClassEntry.ofJson?) _ = some c.classes :=
    Json.fieldD_fits classes (fun _ => Json.list_isArray fun _ _ => ClassEntry.ofJson_spelt) Eq.symm
  simp only [List.map_cons,List.map_nil] at read
  simp [ofJson?,read,loggingRead,classesRead]

/-- The form with every field is one of the ways. -/
theorem toJson_spelt (c : Config) : c.Spelt c.toJson := by
  have methods (m : MethodEntry) : m.Spelt m.toJson :=
    ⟨_,_,rfl,.refl _,.given (by simp) rfl (.given (by simp) rfl (.given (by simp) rfl .nil))⟩
  have classes (entry : ClassEntry) : entry.Spelt entry.toJson := by
    refine ⟨_,_,rfl,.refl _,.given (by simp) rfl (.given (by simp) rfl (.given (by simp) rfl
      (.given (by simp) ⟨_,rfl,?_⟩ .nil)))⟩
    rw [List.forall₂_map_right_iff]
    exact List.forall₂_same.mpr fun m _ => methods m
  have logging : c.logging.Spelt c.logging.toJson :=
    ⟨_,_,rfl,.refl _,.given (by simp) rfl (.given (by simp) rfl (.given (by simp) rfl
      (.given (by simp) rfl .nil)))⟩
  refine ⟨_,_,rfl,.refl _,.given (by simp) logging (.given (by simp) ⟨_,rfl,?_⟩ .nil)⟩
  rw [List.forall₂_map_right_iff]
  exact List.forall₂_same.mpr fun entry _ => classes entry

/-- All the ways to write a configuration are read as that configuration, so they build the same table or fail
    in the same way. -/
theorem spellings_read (c : Config) :
    c.Spelt c.toJson ∧ ∀ j, c.Spelt j → ofJson? j = some c ∧ (ofJson? j).map build = some c.build := by
  refine ⟨toJson_spelt c,?_⟩
  intro j spelt
  have read := ofJson_spelt spelt
  exact ⟨read,by rw [read]; rfl⟩

/-- A class under `extends`, another with nothing but its name, and settings of which one is the default. -/
theorem sparseKennel_read :
    let c : Config :=
      { logging := { level := "debug" }
        classes := [{ name := "Dog", superclass := some "Animal", constructor := ["String"] },{ name := "Animal" }] }
    let j : Json := .object
      [("classes",.array
         [.object [("extends",.string "Animal"),("name",.string "Dog"),("constructor",.strings ["String"])],
          .object [("name",.string "Animal")]]),
       ("logging",.object [("level",.string "debug"),("stderr",.boolean true)])]
    c.Spelt j ∧ ofJson? j = some c := by
  intro c j
  have dog : ClassEntry.Spelt { name := "Dog", superclass := some "Animal", constructor := ["String"] }
      (.object [("extends",.string "Animal"),("name",.string "Dog"),("constructor",.strings ["String"])]) :=
    ⟨_,_,rfl,.swap _ _ _,.given (by simp) rfl (.given (by simp) rfl (.given (by simp) rfl (.omitted rfl .nil)))⟩
  have animal : ClassEntry.Spelt { name := "Animal" } (.object [("name",.string "Animal")]) :=
    ⟨_,_,rfl,.refl _,.given (by simp) rfl (.omitted rfl (.omitted rfl (.omitted rfl .nil)))⟩
  have logging : LoggingConfig.Spelt { level := "debug" }
      (.object [("level",.string "debug"),("stderr",.boolean true)]) :=
    ⟨_,_,rfl,.refl _,.given (by simp) rfl (.omitted rfl (.given (by simp) rfl (.omitted rfl .nil)))⟩
  have spelt : c.Spelt j :=
    ⟨_,_,rfl,.swap _ _ _,.given (by simp) logging
      (.given (by simp) ⟨_,rfl,.cons dog (.cons animal .nil)⟩ .nil)⟩
  exact ⟨spelt,((spellings_read c).2 j spelt).1⟩

end Config

end Nominal
