import Nominal.Config.Load
import Nominal.Proofs.RecordFields
import Nominal.Proofs.SchemaMeaning

/-!
Which of the documents that load are valid under the published schema. A record may be written as an
array, but the schema asks for objects, so only documents with tables for their records are looked at.
All of these are valid except where a class has its superclass under the other key, `extends`: the schema
does not know that key and allows no keys that it does not know (`published_accepts_iff`).
-/

namespace Nominal

namespace Toml.Value

mutual

/-- The value in JSON. A date or time is a string there, and every float is a number, also an infinite one and
    the one that is not a number, for which JSON has no notation. -/
def toJson : Value → Json
  | string s => .string s
  | integer n => .integer n
  | float x => .real x
  | boolean b => .boolean b
  | datetime written => .string written
  | array items => .array (itemsToJson items)
  | table entries => .object (entriesToJson entries)

def itemsToJson : List Value → List Json
  | [] => []
  | v :: rest => v.toJson :: itemsToJson rest

def entriesToJson : List (String × Value) → List (String × Json)
  | [] => []
  | (key,v) :: rest => (key,v.toJson) :: entriesToJson rest

end

theorem itemsToJson_eq (items : List Value) : itemsToJson items = items.map toJson := by
  induction items with
  | nil => rw [itemsToJson,List.map_nil]
  | cons v rest ih => rw [itemsToJson,ih,List.map_cons]

theorem entriesToJson_eq (entries : List (String × Value)) :
    entriesToJson entries = entries.map fun entry => (entry.1,entry.2.toJson) := by
  induction entries with
  | nil => rw [entriesToJson,List.map_nil]
  | cons first rest ih => rw [entriesToJson,ih,List.map_cons]

end Toml.Value

namespace Config

open Toml (Value)
open Json (Obeys)
open Mapping (RecordField Written Given)

/-- The value is an item of the list under a key. -/
def Listed (entries : List (String × Value)) (key : String) (item : Value) : Prop :=
  ∃ items, (key,.array items) ∈ entries ∧ item ∈ items

/-- The records of a document are written as tables. -/
structure Tabular (entries : List (String × Value)) : Prop where
  logging : ∀ v, ("logging",v) ∈ entries → ∃ settings, v = .table settings
  classes : ∀ item, Listed entries "classes" item → ∃ fields, item = .table fields
  methods : ∀ fields, Listed entries "classes" (.table fields) → ∀ item, Listed fields "methods" item →
    ∃ parts, item = .table parts

namespace Published

/-! ### What is read obeys its schema -/

section
variable {d : Json} {v : Value}

theorem obeys_of_type {types : List SchemaType} {t : SchemaType} {j : Json} (listed : t ∈ types)
    (typed : j.OfType t.name) (description : Option String) (default : Option Json) :
    Obeys d { types, description, default : Schema }.toJson j :=
  (Schema.obeys_types_iff (List.ne_nil_of_mem listed) description default).mpr ⟨t,listed,typed⟩

theorem string_obeys {s : String} (read : Mapping.string v = .ok s) {types : List SchemaType}
    (listed : .string ∈ types) (description : Option String) (default : Option Json) :
    Obeys d { types, description, default : Schema }.toJson v.toJson := by
  rw [Mapping.string_ok_iff.mp read,Value.toJson]
  exact obeys_of_type listed (by rw [Json.OfType,SchemaType.name]) description default

theorem boolean_obeys {b : Bool} (read : Mapping.boolean v = .ok b) (description : Option String)
    (default : Option Json) :
    Obeys d { types := [.boolean], description, default : Schema }.toJson v.toJson := by
  rw [Mapping.boolean_ok_iff.mp read,Value.toJson]
  exact obeys_of_type (List.mem_singleton.mpr rfl) (by rw [Json.OfType,SchemaType.name]) description default

/-- A list obeys the schema of an array when its items do. -/
theorem list_obeys {α : Type} {item : Value → Except MappingError α} {xs : List α}
    (read : Mapping.list item v = .ok xs) {sub : Schema} (description : Option String)
    (each : ∀ items, v = .array items → ∀ w ∈ items, ∀ x, item w = .ok x → Obeys d sub.toJson w.toJson) :
    Obeys d (Schema.arrayOf sub description).toJson v.toJson := by
  obtain ⟨items,rfl,readAll⟩ := Mapping.list_ok_iff.mp read
  rw [Schema.obeys_arrayOf_iff]
  refine ⟨Value.itemsToJson items,by rw [Value.toJson],?_⟩
  rw [Value.itemsToJson_eq,List.forall_mem_map]
  intro w here
  obtain ⟨x,readItem⟩ := mapM_ok_each readAll here
  exact each items rfl w here x readItem

theorem strings_obeys {names : List String} (read : Mapping.list Mapping.string v = .ok names)
    (description : Option String) : Obeys d (Schema.arrayOf .string description).toJson v.toJson := by
  apply list_obeys read description
  intro _ _ w _ s item
  exact string_obeys item (by simp) none none

/-- The items of an array that obeys obey the schema of its items. -/
theorem item_obeys {sub : Schema} {description : Option String} {items : List Value}
    (obeys : Obeys d (Schema.arrayOf sub description).toJson (Value.array items).toJson) {w : Value}
    (inside : w ∈ items) : Obeys d sub.toJson w.toJson := by
  obtain ⟨_,same,each⟩ := (Schema.obeys_arrayOf_iff sub description).mp obeys
  rw [Value.toJson,Value.itemsToJson_eq] at same
  cases same
  exact each _ (List.mem_map_of_mem inside)

/-- The keys of a table that obeys a closed schema have a property each, and their values obey it. -/
theorem entry_obeys {properties : List (String × Schema)} {required : List String}
    {title description : Option String} {default : Option Json} {entries : List (String × Value)}
    (obeys : Obeys d { Schema.closedObject properties required with title, description, default }.toJson
      (Value.table entries).toJson) {key : String} (here : (key,v) ∈ entries) :
    ∃ sub, properties.lookup key = some sub ∧ Obeys d sub.toJson v.toJson := by
  obtain ⟨_,same,_,known⟩ :=
    (Schema.obeys_closed_iff properties required title description default).mp obeys
  rw [Value.toJson,Value.entriesToJson_eq] at same
  cases same
  exact known key v.toJson (List.mem_map_of_mem here)

/-- The entries that give a record obey a closed schema that knows each of their keys. -/
theorem written_obeys {F : Type} {fields : List (RecordField F)} {entries : List (String × Value)} {f : F}
    (written : Written fields entries f) {properties : List (String × Schema)} {required : List String}
    {title description : Option String} {default : Option Json}
    (present : ∀ name ∈ required, name ∈ entries.map (·.1))
    (covered : ∀ field ∈ fields, ∀ key ∈ field.spellings, ∀ v content, (key,v) ∈ entries →
      field.read v = .ok content → ∃ sub, properties.lookup key = some sub ∧ Obeys d sub.toJson v.toJson) :
    Obeys d { Schema.closedObject properties required with title, description, default }.toJson
      (Value.table entries).toJson := by
  rw [Schema.obeys_closed_iff,Value.toJson]
  refine ⟨_,rfl,?_,?_⟩
  · simpa [Value.entriesToJson_eq] using present
  · rw [Value.entriesToJson_eq]
    intro key j listed
    obtain ⟨⟨_,v⟩,here,same⟩ := List.mem_map.mp listed
    cases same
    obtain ⟨field,known,spelled⟩ := written.keys _ here
    obtain ⟨content,_,read⟩ := Mapping.given_entry (written.fields field known) here spelled
    exact covered field known _ spelled v content here read

end

/-! ### The records -/

theorem name_present {entries : List (String × Value)} {field : Option String}
    (given : Given ["name"] Mapping.string entries field) (named : field.isSome) :
    ∀ key ∈ ["name"], key ∈ entries.map (·.1) := by
  obtain ⟨name,rfl⟩ := Option.isSome_iff_exists.mp named
  obtain ⟨key,v,here,spelled,_⟩ := Mapping.given_some given
  rw [List.mem_singleton] at spelled
  rw [List.forall_mem_singleton,← spelled]
  exact List.mem_map_of_mem here

theorem method_named {f : Mapping.MethodFields} {m : MethodEntry} (finished : f.finish = .ok m) :
    f.name.isSome := by
  cases named : f.name with
  | none => simp [Mapping.MethodFields.finish,named] at finished
  | some name => rfl

theorem class_named {f : Mapping.ClassFields} {c : ClassEntry} (finished : f.finish = .ok c) :
    f.name.isSome := by
  cases named : f.name with
  | none => simp [Mapping.ClassFields.finish,named] at finished
  | some name => rfl

theorem method_obeys (d : Json) {entries : List (String × Value)} {m : MethodEntry}
    (read : Mapping.methodOfEntries entries = .ok m) :
    Obeys d methodSchema.toJson (Value.table entries).toJson := by
  obtain ⟨f,visited,finished⟩ := (bind_ok_iff _ _ _).mp read
  have written := (Mapping.visits_ok_iff Mapping.method_meets entries f).mp visited
  have named := name_present (written.fields _ List.mem_cons_self) (method_named finished)
  refine written_obeys written named ?_
  simp only [Mapping.methodFields,List.forall_mem_cons,RecordField.spellings,List.not_mem_nil,false_imp_iff,
    implies_true,and_true]
  refine ⟨?_,?_,?_⟩
  · intro v name _ held
    exact ⟨_,rfl,string_obeys held (by simp) _ _⟩
  · intro v params _ held
    exact ⟨_,rfl,strings_obeys held _⟩
  · intro v returns _ held
    exact ⟨_,rfl,string_obeys held (by simp) _ _⟩

theorem logging_obeys (d : Json) {entries : List (String × Value)} {l : LoggingConfig}
    (read : Mapping.loggingOfEntries entries = .ok l) :
    Obeys d loggingSchema.toJson (Value.table entries).toJson := by
  obtain ⟨f,visited,_⟩ := (bind_ok_iff _ _ _).mp read
  have written := (Mapping.visits_ok_iff Mapping.logging_meets entries f).mp visited
  refine written_obeys written (by simp) ?_
  simp only [Mapping.loggingFields,List.forall_mem_cons,RecordField.spellings,List.not_mem_nil,false_imp_iff,
    implies_true,and_true]
  refine ⟨?_,?_,?_,?_⟩
  · intro v level _ held
    exact ⟨_,rfl,string_obeys held (by simp) _ _⟩
  · intro v json _ held
    exact ⟨_,rfl,boolean_obeys held _ _⟩
  · intro v stderr _ held
    exact ⟨_,rfl,boolean_obeys held _ _⟩
  · intro v file _ held
    exact ⟨_,rfl,string_obeys (Mapping.string_ok_iff.mpr (Mapping.path_ok_iff.mp held)) (by simp) _ _⟩

/-! ### The document -/

theorem document_members :
    ∃ dialect, document.members = ("$schema",dialect) :: configSchema.toJson.members ++
      [("definitions",.object (Schema.propertiesToJson definitions))] := by
  rw [document,Schema.toJson_eq]
  exact ⟨_,rfl⟩

theorem definition_document (name : String) :
    document.definition? name = (definitions.lookup name).map Schema.toJson := by
  have own : configSchema.toJson.members.lookup "definitions" = none := by
    rw [Schema.toJson_keyword]
    rfl
  obtain ⟨dialect,members⟩ := document_members
  rw [← Schema.lookup_propertiesToJson,Json.definition?,members]
  simp [List.lookup_append,List.lookup_cons,own]

/-- The document says what its first schema says. -/
theorem obeys_document_iff (d j : Json) : Obeys d document j ↔ Obeys d configSchema.toJson j := by
  have same : ∀ name ∈ Json.readKeywords,
      document.members.lookup name = configSchema.toJson.members.lookup name := by
    obtain ⟨dialect,members⟩ := document_members
    rw [members]
    simp [Json.readKeywords,List.lookup_append,List.lookup_cons]
  have shape : document = .object document.members := by
    rw [document,Schema.toJson_eq,Json.members_object]
  rw [shape,Schema.toJson_object]
  constructor
  · exact Json.obeys_unread same
  · exact Json.obeys_unread fun name read => (same name read).symm

/-- A reference says what the definition says. -/
theorem obeys_definition_iff {name : String} {s : Schema} (defined : definitions.lookup name = some s)
    (j : Json) :
    Obeys document (Schema.ref name).toJson j ↔ Obeys document s.toJson j := by
  rw [Schema.obeys_ref_iff,definition_document,defined]
  simp

/-- A class obeys its schema when its methods are tables and it does not use the other key for its
    superclass. -/
theorem class_obeys {entries : List (String × Value)} {c : ClassEntry}
    (read : Mapping.classOfEntries entries = .ok c)
    (tables : ∀ item, Listed entries "methods" item → ∃ parts, item = .table parts)
    (plain : "extends" ∉ entries.map (·.1)) :
    Obeys document classSchema.toJson (Value.table entries).toJson := by
  obtain ⟨f,visited,finished⟩ := (bind_ok_iff _ _ _).mp read
  have written := (Mapping.visits_ok_iff Mapping.class_meets entries f).mp visited
  have named := name_present (written.fields _ List.mem_cons_self) (class_named finished)
  refine written_obeys written named ?_
  simp only [Mapping.classFields,List.forall_mem_cons,RecordField.spellings,List.not_mem_nil,false_imp_iff,
    implies_true,and_true]
  refine ⟨?_,⟨?_,?_⟩,?_,?_⟩
  · intro v name _ held
    exact ⟨_,rfl,string_obeys held (by simp) _ _⟩
  · intro v superclass _ held
    exact ⟨_,rfl,string_obeys held (by simp) _ _⟩
  · intro v superclass here _
    exact absurd (List.mem_map_of_mem here) plain
  · intro v params _ held
    exact ⟨_,rfl,strings_obeys held _⟩
  · intro v methods here held
    refine ⟨_,rfl,list_obeys held _ ?_⟩
    rintro items rfl w inside m item
    obtain ⟨parts,rfl⟩ := tables w ⟨items,here,inside⟩
    rw [obeys_definition_iff rfl]
    exact method_obeys document item

/-- The schema of a class has no property for the other key of the superclass. -/
theorem class_plain {entries : List (String × Value)}
    (obeys : Obeys document classSchema.toJson (Value.table entries).toJson) :
    "extends" ∉ entries.map (·.1) := by
  intro used
  obtain ⟨⟨key,v⟩,here,rfl⟩ := List.mem_map.mp used
  obtain ⟨_,known,_⟩ := entry_obeys obeys here
  cases known

end Published

open Published

/-- Of the entries that give a configuration with tables for its records, those are valid under the
    schema whose classes have their superclass under its proper key. -/
theorem ofEntries_obeys_iff {entries : List (String × Value)} {c : Config} (loaded : ofEntries entries = .ok c)
    (tables : Tabular entries) :
    Obeys document document (Value.table entries).toJson ↔
      ∀ fields, Listed entries "classes" (.table fields) → "extends" ∉ fields.map (·.1) := by
  obtain ⟨f,visited,_⟩ := (bind_ok_iff _ _ _).mp loaded
  have written := (Mapping.visits_ok_iff Mapping.config_meets entries f).mp visited
  rw [obeys_document_iff]
  constructor
  -- A key that the schema of a class does not know makes the whole document invalid.
  · rintro obeys fields ⟨items,here,inside⟩
    obtain ⟨_,known,listObeys⟩ := entry_obeys obeys here
    cases known
    exact class_plain ((obeys_definition_iff rfl _).mp (item_obeys listObeys inside))
  · intro plain
    refine written_obeys written (by simp) ?_
    simp only [Mapping.configFields,List.forall_mem_cons,RecordField.spellings,List.not_mem_nil,false_imp_iff,
      implies_true,and_true]
    refine ⟨?_,?_⟩
    · intro v l here held
      obtain ⟨settings,rfl⟩ := tables.logging v here
      refine ⟨_,rfl,(Schema.obeys_allOf_iff _ _ _).mpr ?_⟩
      rw [List.forall_mem_singleton,obeys_definition_iff rfl]
      exact logging_obeys document held
    · intro v classes here held
      refine ⟨_,rfl,list_obeys held _ ?_⟩
      rintro items rfl w inside entry read
      obtain ⟨fields,rfl⟩ := tables.classes w ⟨items,here,inside⟩
      rw [obeys_definition_iff rfl]
      exact class_obeys read (tables.methods fields ⟨items,here,inside⟩) (plain fields ⟨items,here,inside⟩)

/-- A text loads when it is a document and the entries of the document give a configuration. -/
theorem ofText_ok_iff (text : String) (c : Config) :
    ofText text = .ok c ↔ ∃ entries, Toml.parse? text = some entries ∧ ofEntries entries = .ok c := by
  unfold ofText
  cases Toml.parse? text with
  | none => simp
  | some entries =>
    cases read : ofEntries entries with
    | ok other => simp [Except.mapError,read]
    | error e => simp [Except.mapError,read]

/-- A text that loads, with tables for its records, is valid under the published schema if and only if
    none of its classes has its superclass under the key `extends`. -/
theorem published_accepts_iff (text : String) (entries : List (String × Value)) (c : Config)
    (parsed : Toml.parse? text = some entries) (loaded : ofText text = .ok c) (tables : Tabular entries) :
    Obeys document document (Value.table entries).toJson ↔
      ∀ fields, Listed entries "classes" (.table fields) → "extends" ∉ fields.map (·.1) := by
  obtain ⟨_,same,given⟩ := (ofText_ok_iff text c).mp loaded
  cases parsed.symm.trans same
  exact ofEntries_obeys_iff given tables

/-- A class with its superclass under the proper key. -/
def kennel : String :=
  "[logging]\njson = true\n[[classes]]\nname = \"Dog\"\nsuperclass = \"Object\"\n" ++
  "methods = [\x7b name = \"bark\" \x7d]"

def kennelEntries : List (String × Value) :=
  [("logging",.table [("json",.boolean true)]),
   ("classes",.array [.table [("name",.string "Dog"),("superclass",.string "Object"),
     ("methods",.array [.table [("name",.string "bark")]])]])]

def kennelConfig : Config :=
  { logging := { json := true }
    classes := [{ name := "Dog", superclass := some "Object", methods := [{ name := "bark" }] }] }

theorem kennel_parsed : Toml.parse? kennel = some kennelEntries := by decide +kernel

theorem kennel_tabular : Tabular kennelEntries :=
  ⟨by simp [kennelEntries],by simp [kennelEntries,Listed],by simp [kennelEntries,Listed]⟩

theorem kennel_accepted :
    ofText kennel = .ok kennelConfig ∧ Obeys document document (Value.table kennelEntries).toJson := by
  have loaded : ofText kennel = .ok kennelConfig := (ofText_ok_iff _ _).mpr ⟨kennelEntries,kennel_parsed,rfl⟩
  refine ⟨loaded,?_⟩
  rw [published_accepts_iff kennel kennelEntries kennelConfig kennel_parsed loaded kennel_tabular]
  simp [kennelEntries,Listed]

/-- A class with its superclass under the other key. -/
def stray : String := "[[classes]]\nname = \"Dog\"\nextends = \"Object\"\n"

def strayEntries : List (String × Value) :=
  [("classes",.array [.table [("name",.string "Dog"),("extends",.string "Object")]])]

def strayConfig : Config := { classes := [{ name := "Dog", superclass := some "Object" }] }

theorem stray_refused :
    Toml.parse? stray = some strayEntries ∧ ofText stray = .ok strayConfig ∧ Tabular strayEntries ∧
      ¬ Obeys document document (Value.table strayEntries).toJson := by
  have parsed : Toml.parse? stray = some strayEntries := by decide +kernel
  have given : ofEntries strayEntries = .ok strayConfig := rfl
  have tables : Tabular strayEntries :=
    ⟨by simp [strayEntries],by simp [strayEntries,Listed],by simp [strayEntries,Listed]⟩
  refine ⟨parsed,(ofText_ok_iff _ _).mpr ⟨strayEntries,parsed,given⟩,tables,?_⟩
  rw [ofEntries_obeys_iff given tables]
  simp [strayEntries,Listed]

end Config

end Nominal
