import Nominal.Proofs.DistinctKeys
import Nominal.Proofs.SchemaCoverage

/-!
Documents that are valid under the published schema. Such a document loads, unless a date or time stands in
it, and the configuration holds what the document says (`Config.Holds`): every value of the document in its
place, and the default where the document has no key. The schema says nothing of keys that are given twice,
but a document has none.
-/

namespace Nominal

namespace Toml.Value

/-- No date or time stands in the value. -/
def Undated (v : Value) : Prop := v.Everywhere fun part => ∀ written, part ≠ .datetime written

@[simp] theorem undated_string (s : String) : (string s).Undated := (everywhere_plain rfl).mpr (by simp)

@[simp] theorem undated_boolean (b : Bool) : (boolean b).Undated := (everywhere_plain rfl).mpr (by simp)

@[simp] theorem undated_array_iff (items : List Value) :
    (array items).Undated ↔ ∀ item ∈ items, item.Undated := by
  rw [Undated,everywhere_array_iff]
  exact and_iff_right (by simp)

@[simp] theorem undated_table_iff (entries : List (String × Value)) :
    (table entries).Undated ↔ ∀ entry ∈ entries, entry.2.Undated := by
  rw [Undated,everywhere_table_iff]
  exact and_iff_right (by simp)

end Toml.Value

namespace Config

open Toml (Value)

/-! ### What a document says -/

section
variable {α : Type}

/-- The content of a field is what the value under its key means; without the key it is the default. -/
def Held (entries : List (String × Value)) (key : String) (Means : Value → α → Prop) (default a : α) : Prop :=
  match entries.lookup key with
  | some v => Means v a
  | none => a = default

def IsString (v : Value) (s : String) : Prop := v = .string s

def IsBoolean (v : Value) (b : Bool) : Prop := v = .boolean b

/-- A value that is given where it may be absent. -/
def IsSome (Means : Value → α → Prop) (v : Value) (content : Option α) : Prop :=
  ∃ a, Means v a ∧ content = some a

/-- The value is an array whose items mean the members of the list, in order. -/
def IsList (Means : Value → α → Prop) (v : Value) (xs : List α) : Prop :=
  ∃ items, v = .array items ∧ List.Forall₂ Means items xs

/-- The value is a table whose entries mean the record. -/
def IsRecord (Means : List (String × Value) → α → Prop) (v : Value) (a : α) : Prop :=
  ∃ entries, v = .table entries ∧ Means entries a

end

/-- The entries have no other keys than the given ones. -/
def KeysAmong (names : List String) (entries : List (String × Value)) : Prop :=
  ∀ key ∈ entries.map (·.1), key ∈ names

/-- The method is what the entries of its table say, and they say nothing else. -/
structure MethodHolds (entries : List (String × Value)) (m : MethodEntry) : Prop where
  keys : KeysAmong ["name","params","returns"] entries
  name : entries.lookup "name" = some (.string m.name)
  params : Held entries "params" (IsList IsString) [] m.params
  returns : Held entries "returns" IsString "void" m.returns

/-- The class is what the entries of its table say, and they say nothing else. -/
structure ClassHolds (entries : List (String × Value)) (c : ClassEntry) : Prop where
  keys : KeysAmong ["name","superclass","constructor","methods"] entries
  name : entries.lookup "name" = some (.string c.name)
  superclass : Held entries "superclass" (IsSome IsString) none c.superclass
  constructor : Held entries "constructor" (IsList IsString) [] c.constructor
  methods : Held entries "methods" (IsList (IsRecord MethodHolds)) [] c.methods

/-- The settings are what the entries of their table say, and they say nothing else. -/
structure LoggingHolds (entries : List (String × Value)) (l : LoggingConfig) : Prop where
  keys : KeysAmong ["level","json","stderr","file"] entries
  level : Held entries "level" IsString "info" l.level
  json : Held entries "json" IsBoolean false l.json
  stderr : Held entries "stderr" IsBoolean true l.stderr
  file : Held entries "file" (IsSome IsString) none l.file

/-- The configuration is what the entries of a document say, and they say nothing else. -/
structure Holds (entries : List (String × Value)) (c : Config) : Prop where
  keys : KeysAmong ["logging","classes"] entries
  logging : Held entries "logging" (IsRecord LoggingHolds) ⟨"info",false,true,none⟩ c.logging
  classes : Held entries "classes" (IsList (IsRecord ClassHolds)) [] c.classes

namespace Mapping

/-! ### Records of which no key is given twice -/

/-- The field is what the value under the key reads as; without the key it is absent. -/
def ReadAt {α : Type} (key : String) (read : Value → Except MappingError α)
    (entries : List (String × Value)) : Option α → Prop
  | none => entries.lookup key = none
  | some a => ∃ v, entries.lookup key = some v ∧ read v = .ok a

/-- Where the only spelling of a field among the keys is the first, the field is what stands there. -/
theorem given_readAt {α : Type} {key : String} {spellings : List String}
    {read : Value → Except MappingError α} {entries : List (String × Value)} {field : Option α}
    (given : Given spellings read entries field) (listed : key ∈ spellings)
    (proper : ∀ other ∈ entries.map (·.1), other ∈ spellings → other = key) :
    ReadAt key read entries field := by
  cases found : entries.lookup key with
  | none =>
    cases field with
    | none => exact found
    | some a =>
      obtain ⟨other,v,here,spelled,_⟩ := given_some given
      have used : other ∈ entries.map (·.1) := List.mem_map_of_mem here
      exact absurd (proper other used spelled ▸ used) (Toml.lookup_none_iff.mp found)
  | some v =>
    obtain ⟨a,rfl,held⟩ := given_entry given (Toml.lookup_mem found) listed
    exact ⟨v,found,held⟩

section
variable {F : Type} {fields : List (RecordField F)} {owner : Record} {start : F}
  {visit : F → String × Value → Except MappingError F} {entries : List (String × Value)}

/-- Of the keys of fields, only one is a spelling of a given field. -/
theorem proper_spelling (meets : Meets fields owner start visit) {field : RecordField F}
    (inside : field ∈ fields) {key : String} (proper : key ∈ fields.map (·.name))
    (spelled : key ∈ field.spellings) : key = field.name := by
  obtain ⟨other,listed,rfl⟩ := List.mem_map.mp proper
  by_cases same : field = other
  · rw [same]
  · have own : other.name ∈ other.spellings := List.mem_cons_self
    exact absurd spelled (other_field meets inside listed same own).1

/-- Entries under distinct keys of fields, each with a value that its field can read, give a record. -/
theorem exists_written (meets : Meets fields owner start visit) (distinct : (entries.map (·.1)).Nodup)
    (proper : KeysAmong (fields.map (·.name)) entries)
    (reads : ∀ field ∈ fields, ∀ v, (field.name,v) ∈ entries → ∃ a, field.read v = .ok a) :
    ∃ f, Written fields entries f := by
  induction entries using List.reverseRecOn with
  | nil => exact ⟨start,(written_nil meets start).mpr rfl⟩
  | append_singleton entries entry ih =>
    obtain ⟨key,v⟩ := entry
    rw [List.map_append,List.nodup_append] at distinct
    obtain ⟨earlier,_,apart⟩ := distinct
    obtain ⟨f,written⟩ := ih earlier (fun other here => proper other (by simp [here]))
      fun field inside w here => reads field inside w (List.mem_append_left _ here)
    obtain ⟨here,listed,rfl⟩ := List.mem_map.mp (proper key (by simp))
    obtain ⟨a,held⟩ := reads here listed v (by simp)
    have own : here.name ∈ here.spellings := List.mem_cons_self
    -- The field is still absent: its key is new, and no other spelling of it is the key of a field.
    have absent : here.get f = none := by
      cases met : here.get f with
      | none => rfl
      | some content =>
        have given := written.fields here listed
        rw [RecordField.GivenBy,met] at given
        obtain ⟨other,w,before,spelled,_⟩ := given_some given
        have used : other ∈ entries.map (·.1) := List.mem_map_of_mem before
        have same := proper_spelling meets listed (proper other (by simp [used])) spelled
        exact absurd same (apart other used here.name (by simp))
    refine ⟨here.set f (some a),written_visit meets written ?_⟩
    rw [meets.known here listed _ own,absent]
    simp [once,held]

/-- Such entries are visited without a fault, and every field is what stands under its key. -/
theorem visits_proper (meets : Meets fields owner start visit) (distinct : (entries.map (·.1)).Nodup)
    (proper : KeysAmong (fields.map (·.name)) entries)
    (reads : ∀ field ∈ fields, ∀ v, (field.name,v) ∈ entries → ∃ a, field.read v = .ok a) :
    ∃ f, entries.foldlM visit start = .ok f ∧
      ∀ field ∈ fields, ReadAt field.name field.read entries (field.get f) := by
  obtain ⟨f,written⟩ := exists_written meets distinct proper reads
  refine ⟨f,(visits_ok_iff meets entries f).mpr written,?_⟩
  intro field inside
  refine given_readAt (written.fields field inside) List.mem_cons_self ?_
  intro key used spelled
  exact proper_spelling meets inside (proper key used) spelled

end

/-- The value can be read, and what is read is what it means. -/
def Reads {α : Type} (read : Value → Except MappingError α) (Means : Value → α → Prop) (v : Value) : Prop :=
  ∃ a, read v = .ok a ∧ Means v a

section
variable {α : Type} {key : String} {read : Value → Except MappingError α} {Means : Value → α → Prop}
  {entries : List (String × Value)} {field : Option α}

theorem readAt_means (found : ReadAt key read entries field)
    (reads : ∀ v, (key,v) ∈ entries → Reads read Means v) {a : α} (here : field = some a) :
    ∃ v, entries.lookup key = some v ∧ Means v a := by
  subst here
  obtain ⟨v,present,held⟩ := found
  obtain ⟨b,again,means⟩ := reads v (Toml.lookup_mem present)
  cases held.symm.trans again
  exact ⟨v,present,means⟩

/-- A string that must be given. -/
theorem readAt_required {field : Option String} (found : ReadAt key string entries field)
    (present : key ∈ entries.map (·.1)) : ∃ s, field = some s ∧ entries.lookup key = some (.string s) := by
  cases field with
  | none => exact absurd present (Toml.lookup_none_iff.mp found)
  | some s =>
    obtain ⟨v,here,held⟩ := found
    exact ⟨s,rfl,string_ok_iff.mp held ▸ here⟩

theorem held_getD (found : ReadAt key read entries field)
    (reads : ∀ v, (key,v) ∈ entries → Reads read Means v) (default : α) :
    Held entries key Means default (field.getD default) := by
  unfold Held
  cases field with
  | none =>
    rw [show entries.lookup key = none from found]
    rfl
  | some a =>
    obtain ⟨v,present,means⟩ := readAt_means found reads rfl
    rw [present]
    exact means

theorem held_option (found : ReadAt key read entries field)
    (reads : ∀ v, (key,v) ∈ entries → Reads read Means v) :
    Held entries key (IsSome Means) none field := by
  unfold Held
  cases field with
  | none =>
    rw [show entries.lookup key = none from found]
  | some a =>
    obtain ⟨v,present,means⟩ := readAt_means found reads rfl
    rw [present]
    exact ⟨a,means,rfl⟩

theorem reads_list {item : Value → Except MappingError α} {items : List Value}
    (each : ∀ v ∈ items, Reads item Means v) : Reads (list item) (IsList Means) (.array items) := by
  have together : ∃ xs, List.Forall₂ (fun v a => item v = .ok a ∧ Means v a) items xs := by
    induction items with
    | nil => exact ⟨[],.nil⟩
    | cons v rest ih =>
      obtain ⟨first,others⟩ := List.forall_mem_cons.mp each
      obtain ⟨a,held⟩ := first
      obtain ⟨as,heldRest⟩ := ih others
      exact ⟨a :: as,.cons held heldRest⟩
  obtain ⟨xs,held⟩ := together
  have readAll : items.mapM item = .ok xs := (mapM_ok_iff item items xs).mpr (held.imp fun _ _ => And.left)
  exact ⟨xs,readAll,items,rfl,held.imp fun _ _ => And.right⟩

end

end Mapping

/-! ### What obeys its schema can be read -/

open Json (Obeys)
open Mapping (Reads held_getD held_option reads_list)

namespace Published

section
variable {d : Json} {v : Value}

/-- A value under a schema of text is a string. A document has no `null`, and a date or time, which the schema
    would let through, is left out. -/
theorem text_reads {types : List SchemaType} {description : Option String} {default : Option Json}
    {read : Value → Except MappingError String} (reads : ∀ s, read (.string s) = .ok s)
    (textual : types = [.string] ∨ types = [.string,.null])
    (obeys : Obeys d { types, description, default : Schema }.toJson v.toJson) (undated : v.Undated) :
    Reads read IsString v := by
  have typed : types ≠ [] := by rcases textual with rfl | rfl <;> simp
  obtain ⟨t,listed,held⟩ := (Schema.obeys_types_iff typed description default).mp obeys
  have named : t.name = "string" ∨ t.name = "null" := by
    have either : t = .string ∨ t = .null := by
      rcases textual with rfl | rfl
      · exact .inl (List.mem_singleton.mp listed)
      · simpa using listed
    rcases either with rfl | rfl
    · exact .inl rfl
    · exact .inr rfl
  have dateless := (Value.everywhere_iff.mp undated).1
  cases v with
  | string s => exact ⟨s,reads s,rfl⟩
  | datetime written => exact absurd rfl (dateless written)
  | integer | float | boolean | array | table =>
    all_goals
      rw [Value.toJson] at held
      rcases named with named | named <;> simp [Json.OfType,named] at held

theorem string_reads {description : Option String} {default : Option Json}
    (obeys : Obeys d { types := [.string], description, default : Schema }.toJson v.toJson)
    (undated : v.Undated) : Reads Mapping.string IsString v :=
  text_reads (fun _ => rfl) (.inl rfl) obeys undated

theorem boolean_reads {description : Option String} {default : Option Json}
    (obeys : Obeys d { types := [.boolean], description, default : Schema }.toJson v.toJson) :
    Reads Mapping.boolean IsBoolean v := by
  obtain ⟨t,listed,held⟩ := (Schema.obeys_types_iff (by simp) description default).mp obeys
  rw [List.mem_singleton.mp listed] at held
  cases v with
  | boolean b => exact ⟨b,rfl,rfl⟩
  | string | integer | float | datetime | array | table =>
    all_goals
      rw [Value.toJson] at held
      simp [Json.OfType,SchemaType.name] at held

theorem list_reads {α : Type} {sub : Schema} {description : Option String}
    {item : Value → Except MappingError α} {Means : Value → α → Prop}
    (obeys : Obeys d (Schema.arrayOf sub description).toJson v.toJson)
    (each : ∀ w ∈ v.parts, Obeys d sub.toJson w.toJson → Reads item Means w) :
    Reads (Mapping.list item) (IsList Means) v := by
  obtain ⟨_,array,_⟩ := (Schema.obeys_arrayOf_iff sub description).mp obeys
  cases v with
  | array items => exact reads_list fun w inside => each w inside (item_obeys obeys inside)
  | string | integer | float | boolean | datetime | table => all_goals simp [Value.toJson] at array

theorem strings_read {description : Option String}
    (obeys : Obeys d (Schema.arrayOf .string description).toJson v.toJson) (undated : v.Undated) :
    Reads (Mapping.list Mapping.string) (IsList IsString) v := by
  refine list_reads obeys fun w inside held => ?_
  exact string_reads held (Value.everywhere_part undated inside)

/-- What obeys a closed schema is a table, with the required keys and no others than those of the
    properties. -/
theorem table_of_obeys {properties : List (String × Schema)} {required : List String}
    {title description : Option String} {default : Option Json}
    (obeys : Obeys d { Schema.closedObject properties required with title, description, default }.toJson
      v.toJson) :
    ∃ entries, v = .table entries ∧ KeysAmong (properties.map (·.1)) entries ∧
      ∀ key ∈ required, key ∈ entries.map (·.1) := by
  have closed := (Schema.obeys_closed_iff properties required title description default).mp obeys
  obtain ⟨_,object,complete,_⟩ := closed
  cases v with
  | table entries =>
    refine ⟨entries,rfl,?_,?_⟩
    · intro key used
      obtain ⟨⟨_,w⟩,here,rfl⟩ := List.mem_map.mp used
      obtain ⟨sub,known,_⟩ := entry_obeys obeys here
      exact List.mem_map_of_mem (Toml.lookup_mem known)
    · rw [Value.toJson,Value.entriesToJson_eq] at object
      cases object
      simpa using complete
  | string | integer | float | boolean | datetime | array => all_goals simp [Value.toJson] at object

/-- The value under a key obeys the schema of the property. -/
theorem property_obeys {properties : List (String × Schema)} {required : List String}
    {title description : Option String} {default : Option Json} {entries : List (String × Value)}
    (obeys : Obeys d { Schema.closedObject properties required with title, description, default }.toJson
      (Value.table entries).toJson) {key : String} {sub : Schema} (listed : properties.lookup key = some sub)
    (here : (key,v) ∈ entries) : Obeys d sub.toJson v.toJson := by
  obtain ⟨_,known,held⟩ := entry_obeys obeys here
  cases listed.symm.trans known
  exact held

end

theorem readable {α : Type} {read : Value → Except MappingError α} {Means : Value → α → Prop}
    {entries : List (String × Value)} {key : String} (reads : ∀ v, (key,v) ∈ entries → Reads read Means v) :
    ∀ v, (key,v) ∈ entries → ∃ a, read v = .ok a :=
  fun v here => (reads v here).imp fun _ => And.left

/-! ### The records -/

section
variable {v : Value}

theorem method_reads {d : Json} (obeys : Obeys d methodSchema.toJson v.toJson) (undated : v.Undated)
    (tidy : v.Tidy) : Reads Mapping.methodEntry (IsRecord MethodHolds) v := by
  obtain ⟨entries,rfl,keys,required⟩ := table_of_obeys obeys
  have name : ∀ w, ("name",w) ∈ entries → Reads Mapping.string IsString w := fun w here =>
    string_reads (property_obeys obeys rfl here) (Value.everywhere_entry undated here)
  have params : ∀ w, ("params",w) ∈ entries → Reads (Mapping.list Mapping.string) (IsList IsString) w :=
    fun w here => strings_read (property_obeys obeys rfl here) (Value.everywhere_entry undated here)
  have returns : ∀ w, ("returns",w) ∈ entries → Reads Mapping.string IsString w := fun w here =>
    string_reads (property_obeys obeys rfl here) (Value.everywhere_entry undated here)
  obtain ⟨f,visited,found⟩ := Mapping.visits_proper Mapping.method_meets
    (Value.tidy_table_iff.mp tidy).1 keys (by
      simp only [Mapping.methodFields,List.forall_mem_cons]
      exact ⟨readable name,readable params,readable returns,by simp⟩)
  simp only [Mapping.methodFields,List.forall_mem_cons] at found
  obtain ⟨foundName,foundParams,foundReturns,_⟩ := found
  obtain ⟨text,named,here⟩ := Mapping.readAt_required foundName (required "name" (by simp))
  refine ⟨⟨text,f.params.getD [],f.returns.getD "void"⟩,?_,entries,rfl,?_⟩
  · exact (bind_ok_iff _ _ _).mpr ⟨f,visited,by simp [Mapping.MethodFields.finish,named]⟩
  · exact ⟨keys,here,held_getD foundParams params [],held_getD foundReturns returns "void"⟩

theorem class_reads (obeys : Obeys document classSchema.toJson v.toJson) (undated : v.Undated)
    (tidy : v.Tidy) : Reads Mapping.classEntry (IsRecord ClassHolds) v := by
  obtain ⟨entries,rfl,keys,required⟩ := table_of_obeys obeys
  have name : ∀ w, ("name",w) ∈ entries → Reads Mapping.string IsString w := fun w here =>
    string_reads (property_obeys obeys rfl here) (Value.everywhere_entry undated here)
  have superclass : ∀ w, ("superclass",w) ∈ entries → Reads Mapping.string IsString w := fun w here =>
    text_reads (fun _ => rfl) (.inr rfl) (property_obeys obeys rfl here) (Value.everywhere_entry undated here)
  have constructor : ∀ w, ("constructor",w) ∈ entries →
      Reads (Mapping.list Mapping.string) (IsList IsString) w :=
    fun w here => strings_read (property_obeys obeys rfl here) (Value.everywhere_entry undated here)
  have methods : ∀ w, ("methods",w) ∈ entries →
      Reads (Mapping.list Mapping.methodEntry) (IsList (IsRecord MethodHolds)) w := by
    intro w here
    have undatedList : w.Undated := Value.everywhere_entry undated here
    have tidyList : w.Tidy := Value.everywhere_entry tidy here
    refine list_reads (property_obeys obeys rfl here) fun m inside held => ?_
    exact method_reads ((obeys_definition_iff rfl _).mp held) (Value.everywhere_part undatedList inside)
      (Value.everywhere_part tidyList inside)
  obtain ⟨f,visited,found⟩ := Mapping.visits_proper Mapping.class_meets
    (Value.tidy_table_iff.mp tidy).1 keys (by
      simp only [Mapping.classFields,List.forall_mem_cons]
      exact ⟨readable name,readable superclass,readable constructor,readable methods,by simp⟩)
  simp only [Mapping.classFields,List.forall_mem_cons] at found
  obtain ⟨foundName,foundSuperclass,foundConstructor,foundMethods,_⟩ := found
  obtain ⟨text,named,here⟩ := Mapping.readAt_required foundName (required "name" (by simp))
  refine ⟨⟨text,f.superclass,f.constructor.getD [],f.methods.getD []⟩,?_,entries,rfl,?_⟩
  · exact (bind_ok_iff _ _ _).mpr ⟨f,visited,by simp [Mapping.ClassFields.finish,named]⟩
  · exact ⟨keys,here,held_option foundSuperclass superclass,held_getD foundConstructor constructor [],
      held_getD foundMethods methods []⟩

theorem logging_reads {d : Json} (obeys : Obeys d loggingSchema.toJson v.toJson) (undated : v.Undated)
    (tidy : v.Tidy) : Reads Mapping.logging (IsRecord LoggingHolds) v := by
  obtain ⟨entries,rfl,keys,_⟩ := table_of_obeys obeys
  have level : ∀ w, ("level",w) ∈ entries → Reads Mapping.string IsString w := fun w here =>
    string_reads (property_obeys obeys rfl here) (Value.everywhere_entry undated here)
  have json : ∀ w, ("json",w) ∈ entries → Reads Mapping.boolean IsBoolean w := fun w here =>
    boolean_reads (property_obeys obeys rfl here)
  have stderr : ∀ w, ("stderr",w) ∈ entries → Reads Mapping.boolean IsBoolean w := fun w here =>
    boolean_reads (property_obeys obeys rfl here)
  have file : ∀ w, ("file",w) ∈ entries → Reads Mapping.path IsString w := fun w here =>
    text_reads (fun _ => rfl) (.inr rfl) (property_obeys obeys rfl here) (Value.everywhere_entry undated here)
  obtain ⟨f,visited,found⟩ := Mapping.visits_proper Mapping.logging_meets
    (Value.tidy_table_iff.mp tidy).1 keys (by
      simp only [Mapping.loggingFields,List.forall_mem_cons]
      exact ⟨readable level,readable json,readable stderr,readable file,by simp⟩)
  simp only [Mapping.loggingFields,List.forall_mem_cons] at found
  obtain ⟨foundLevel,foundJson,foundStderr,foundFile,_⟩ := found
  refine ⟨f.finish,(bind_ok_iff _ _ _).mpr ⟨f,visited,rfl⟩,entries,rfl,?_⟩
  exact ⟨keys,held_getD foundLevel level "info",held_getD foundJson json false,
    held_getD foundStderr stderr true,held_option foundFile file⟩

end

end Published

open Published

/-- Entries that are valid under the schema give a configuration that holds what they say. -/
theorem ofEntries_holds {entries : List (String × Value)} (undated : (Value.table entries).Undated)
    (tidy : (Value.table entries).Tidy) (obeys : Obeys document document (Value.table entries).toJson) :
    ∃ c, ofEntries entries = .ok c ∧ Holds entries c := by
  rw [obeys_document_iff] at obeys
  obtain ⟨_,same,keys,_⟩ := table_of_obeys obeys
  cases same
  have logging : ∀ w, ("logging",w) ∈ entries → Reads Mapping.logging (IsRecord LoggingHolds) w := by
    intro w here
    have all := (Schema.obeys_allOf_iff _ _ _).mp (property_obeys obeys rfl here)
    rw [List.forall_mem_singleton,obeys_definition_iff rfl] at all
    exact logging_reads all (Value.everywhere_entry undated here) (Value.everywhere_entry tidy here)
  have classes : ∀ w, ("classes",w) ∈ entries →
      Reads (Mapping.list Mapping.classEntry) (IsList (IsRecord ClassHolds)) w := by
    intro w here
    have undatedList : w.Undated := Value.everywhere_entry undated here
    have tidyList : w.Tidy := Value.everywhere_entry tidy here
    refine list_reads (property_obeys obeys rfl here) fun c inside held => ?_
    exact class_reads ((obeys_definition_iff rfl _).mp held) (Value.everywhere_part undatedList inside)
      (Value.everywhere_part tidyList inside)
  obtain ⟨f,visited,found⟩ := Mapping.visits_proper Mapping.config_meets
    (Value.tidy_table_iff.mp tidy).1 keys (by
      simp only [Mapping.configFields,List.forall_mem_cons]
      exact ⟨readable logging,readable classes,by simp⟩)
  simp only [Mapping.configFields,List.forall_mem_cons] at found
  obtain ⟨foundLogging,foundClasses,_⟩ := found
  refine ⟨f.finish,(bind_ok_iff _ _ _).mpr ⟨f,visited,rfl⟩,keys,?_,?_⟩
  · exact held_getD foundLogging logging ⟨"info",false,true,none⟩
  · exact held_getD foundClasses classes []

/-- A document without dates and times that is valid under the published schema loads, and the
    configuration holds exactly what the document says, with the default for every key that it leaves out. -/
theorem published_loads (text : String) (entries : List (String × Value))
    (parsed : Toml.parse? text = some entries) (undated : (Value.table entries).Undated)
    (obeys : Obeys document document (Value.table entries).toJson) :
    ∃ c, ofText text = .ok c ∧ Holds entries c := by
  obtain ⟨c,given,holds⟩ := ofEntries_holds undated (Toml.parse_tidy parsed) obeys
  exact ⟨c,(ofText_ok_iff text c).mpr ⟨entries,parsed,given⟩,holds⟩

theorem kennel_loads :
    Toml.parse? kennel = some kennelEntries ∧ (Value.table kennelEntries).Undated ∧
      Obeys document document (Value.table kennelEntries).toJson ∧ ofText kennel = .ok kennelConfig ∧
      Holds kennelEntries kennelConfig := by
  have given : ofEntries kennelEntries = .ok kennelConfig := rfl
  have undated : (Value.table kennelEntries).Undated := by simp [kennelEntries]
  have obeys : Obeys document document (Value.table kennelEntries).toJson := by
    rw [ofEntries_obeys_iff given kennel_tabular]
    simp [kennelEntries,Listed]
  obtain ⟨c,loaded,holds⟩ := published_loads kennel kennelEntries kennel_parsed undated obeys
  have same : ofText kennel = .ok kennelConfig := (ofText_ok_iff _ _).mpr ⟨kennelEntries,kennel_parsed,given⟩
  cases loaded.symm.trans same
  exact ⟨kennel_parsed,undated,obeys,loaded,holds⟩

end Config

end Nominal
