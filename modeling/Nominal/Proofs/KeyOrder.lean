import Nominal.Proofs.SchemaCoverage

/-!
The order of keys in a document. Tables are visited in the order of their keys, and the first problem ends
the reading, so the order may decide which problem is reported. It decides neither whether there is one nor
what is read: documents that differ in the order of keys only, at whatever depth, are both configurations or
both not, and are the same configuration.
-/

namespace Nominal

namespace Toml.Value

/-- The second value is the first one with the keys of some tables in another order, the tables inside
    included. Items of arrays keep their places. -/
inductive Rearranged : Value → Value → Prop
  | same (v : Value) : Rearranged v v
  | keys {entries others : List (String × Value)} : entries.Perm others →
      Rearranged (.table entries) (.table others)
  | entry {before after : List (String × Value)} {key : String} {v w : Value} : Rearranged v w →
      Rearranged (.table (before ++ (key,v) :: after)) (.table (before ++ (key,w) :: after))
  | item {before after : List Value} {v w : Value} : Rearranged v w →
      Rearranged (.array (before ++ v :: after)) (.array (before ++ w :: after))
  | trans {u v w : Value} : Rearranged u v → Rearranged v w → Rearranged u w

theorem rearranged_symm {v w : Value} (rearranged : v.Rearranged w) : w.Rearranged v := by
  induction rearranged with
  | same v => exact .same v
  | keys perm => exact .keys perm.symm
  | entry _ ih => exact .entry ih
  | item _ ih => exact .item ih
  | trans _ _ first second => exact .trans second first

/-- One item was rearranged, and so each item was, if only by leaving it as it is. -/
theorem rearranged_items (before after : List Value) {v w : Value} (rearranged : v.Rearranged w) :
    List.Forall₂ Rearranged (before ++ v :: after) (before ++ w :: after) :=
  List.rel_append (List.forall₂_same.mpr fun u _ => .same u)
    (.cons rearranged (List.forall₂_same.mpr fun u _ => .same u))

end Toml.Value

namespace Config.Mapping

open Toml (Value)
open Toml.Value (Rearranged)

/-- A value that is read without a fault is read as the same thing after it was rearranged. -/
def Respects {α : Type} (read : Value → Except MappingError α) : Prop :=
  ∀ {v w : Value}, v.Rearranged w → ∀ {a : α}, read v = .ok a → read w = .ok a

section
variable {α : Type} {read : Value → Except MappingError α}

theorem respects_of_steps
    (keys : ∀ {entries others a}, entries.Perm others → read (.table entries) = .ok a →
      read (.table others) = .ok a)
    (entry : ∀ {before after key v w a}, v.Rearranged w → read (.table (before ++ (key,v) :: after)) = .ok a →
      read (.table (before ++ (key,w) :: after)) = .ok a)
    (items : ∀ {items others a}, List.Forall₂ Rearranged items others → read (.array items) = .ok a →
      read (.array others) = .ok a) : Respects read := by
  intro v w rearranged
  induction rearranged with
  | same v => exact id
  | keys perm => exact keys perm
  | entry inside _ => exact entry inside
  | item inside _ => exact items (Toml.Value.rearranged_items _ _ inside)
  | trans _ _ first second => exact fun held => second (first held)

/-- What reads neither tables nor arrays reads nothing that could be rearranged. -/
theorem respects_plain (table : ∀ entries a, read (.table entries) ≠ .ok a)
    (array : ∀ items a, read (.array items) ≠ .ok a) : Respects read := by
  apply respects_of_steps
  · exact fun _ held => absurd held (table _ _)
  · exact fun _ held => absurd held (table _ _)
  · exact fun _ held => absurd held (array _ _)

theorem string_respects : Respects string := respects_plain (by simp [string]) (by simp [string])

theorem path_respects : Respects path := respects_plain (by simp [path]) (by simp [path])

theorem boolean_respects : Respects boolean := respects_plain (by simp [boolean]) (by simp [boolean])

theorem list_respects {item : Value → Except MappingError α} (respects : Respects item) :
    Respects (list item) := by
  apply respects_of_steps
  · intro _ _ _ _ held
    cases held
  · intro _ _ _ _ _ _ _ held
    cases held
  · intro items others xs rearranged held
    rw [list,mapM_ok_iff] at held ⊢
    refine forall₂_meet ?_ rearranged held
    intro v w x moved read
    exact respects moved read

end

/-! ### Records in tables -/

/-- The entries have the same keys in the same order, and each value was rearranged. -/
def Alike (entries others : List (String × Value)) : Prop :=
  List.Forall₂ (fun entry other => entry.1 = other.1 ∧ entry.2.Rearranged other.2) entries others

theorem alike_entry (before after : List (String × Value)) (key : String) {v w : Value}
    (rearranged : v.Rearranged w) : Alike (before ++ (key,v) :: after) (before ++ (key,w) :: after) :=
  List.rel_append (List.forall₂_same.mpr fun _ _ => ⟨rfl,.same _⟩)
    (.cons ⟨rfl,rearranged⟩ (List.forall₂_same.mpr fun _ _ => ⟨rfl,.same _⟩))

section
variable {α F : Type} {fields : List (RecordField F)} {owner : Record} {start f : F}
  {visit : F → String × Value → Except MappingError F} {entries others : List (String × Value)}

theorem alike_under (alike : Alike entries others) (spellings : List String) :
    Alike (under spellings entries) (under spellings others) := by
  induction alike with
  | nil => exact .nil
  | @cons entry other rest more first _ ih =>
    unfold under
    rw [List.filter_cons,List.filter_cons,← first.1]
    split
    · exact .cons first ih
    · exact ih

theorem given_alike {spellings : List String} {read : Value → Except MappingError α} {field : Option α}
    (respects : Respects read) (alike : Alike entries others) (given : Given spellings read entries field) :
    Given spellings read others field := by
  have under_alike := alike_under alike spellings
  cases field with
  | none =>
    have nothing : under spellings entries = [] := given
    rw [nothing] at under_alike
    exact List.forall₂_nil_left_iff.mp under_alike
  | some a =>
    obtain ⟨key,v,only,held⟩ := given
    rw [only] at under_alike
    obtain ⟨⟨otherKey,w⟩,rest,⟨_,moved⟩,none_left,split⟩ := List.forall₂_cons_left_iff.mp under_alike
    cases none_left
    exact ⟨otherKey,w,split,respects moved held⟩

/-- A field is not given under two of its keys. -/
theorem given_once {spellings : List String} {read : Value → Except MappingError α} {field : Option α}
    (given : Given spellings read entries field) {key other : String} (here : key ∈ entries.map (·.1))
    (there : other ∈ entries.map (·.1)) (listed : key ∈ spellings) (also : other ∈ spellings) : key = other := by
  obtain ⟨entry,inside,rfl⟩ := List.mem_map.mp here
  obtain ⟨second,within,rfl⟩ := List.mem_map.mp there
  have found : entry ∈ under spellings entries := by simp [under,inside,listed]
  have found_too : second ∈ under spellings entries := by simp [under,within,also]
  cases field with
  | none =>
    rw [show under spellings entries = [] from given] at found
    cases found
  | some a =>
    obtain ⟨_,_,only,_⟩ := given
    rw [only,List.mem_singleton] at found found_too
    rw [found,found_too]

theorem given_perm {spellings : List String} {read : Value → Except MappingError α} {field : Option α}
    (perm : entries.Perm others) (given : Given spellings read entries field) :
    Given spellings read others field := by
  have same : (under spellings entries).Perm (under spellings others) := perm.filter _
  cases field with
  | none =>
    have nothing : under spellings entries = [] := given
    rw [nothing] at same
    exact same.symm.eq_nil
  | some a =>
    obtain ⟨key,v,only,held⟩ := given
    rw [only] at same
    exact ⟨key,v,same.symm.eq_singleton,held⟩

theorem alike_keys (alike : Alike entries others) : entries.map (·.1) = others.map (·.1) := by
  induction alike with
  | nil => rfl
  | cons first _ ih => rw [List.map_cons,List.map_cons,first.1,ih]

theorem written_alike (respects : ∀ field ∈ fields, Respects field.read) (alike : Alike entries others)
    (written : Written fields entries f) : Written fields others f := by
  refine ⟨?_,fun field listed => given_alike (respects field listed) alike (written.fields field listed)⟩
  intro other inside
  have key : other.1 ∈ entries.map (·.1) := alike_keys alike ▸ List.mem_map_of_mem inside
  obtain ⟨entry,there,same⟩ := List.mem_map.mp key
  rw [← same]
  exact written.keys entry there

theorem written_perm (perm : entries.Perm others) (written : Written fields entries f) :
    Written fields others f :=
  ⟨fun other inside => written.keys other (perm.mem_iff.mpr inside),
    fun field listed => given_perm perm (written.fields field listed)⟩

/-- A record whose fields respect rearrangement respects it, whichever way it is written. -/
theorem record_respects (meets : Meets fields owner start visit)
    (respects : ∀ field ∈ fields, Respects field.read) {finish : F → Except MappingError α}
    {fromItems : List Value → Except MappingError α}
    (items : ∀ {items others a}, List.Forall₂ Rearranged items others → fromItems items = .ok a →
      fromItems others = .ok a) :
    Respects (record owner (fun entries => entries.foldlM visit start >>= finish) fromItems) := by
  apply respects_of_steps
  · intro entries others a perm held
    obtain ⟨f,written,finished⟩ := (finished_ok_iff meets entries finish a).mp held
    exact (finished_ok_iff meets others finish a).mpr ⟨f,written_perm perm written,finished⟩
  · intro before after key v w a moved held
    obtain ⟨f,written,finished⟩ := (finished_ok_iff meets _ finish a).mp held
    have still := written_alike respects (alike_entry before after key moved) written
    exact (finished_ok_iff meets _ finish a).mpr ⟨f,still,finished⟩
  · exact items

end

/-! ### Records in arrays -/

section
variable {α β : Type} {read : Value → Except MappingError α} {items others : List Value}

theorem map_respects (respects : Respects read) (g : α → β) : Respects fun v => g <$> read v := by
  intro v w moved b held
  obtain ⟨a,here,same⟩ := (map_ok_iff _ _ _).mp held
  exact (map_ok_iff _ _ _).mpr ⟨a,respects moved here,same⟩

theorem item_respects (respects : Respects read) (moved : List.Forall₂ Rearranged items others) {default a : α}
    {rest : List Value} (held : item default read items = .ok (a,rest)) :
    ∃ more, item default read others = .ok (a,more) ∧ List.Forall₂ Rearranged rest more := by
  cases moved with
  | nil =>
    cases held
    exact ⟨[],rfl,.nil⟩
  | cons first later =>
    obtain ⟨_,here,⟨⟩⟩ := (map_ok_iff _ _ _).mp held
    exact ⟨_,(map_ok_iff _ _ _).mpr ⟨a,respects first here,rfl⟩,later⟩

theorem methodOfItems_respects {m : MethodEntry} (moved : List.Forall₂ Rearranged items others)
    (held : methodOfItems items = .ok m) : methodOfItems others = .ok m := by
  cases moved with
  | nil => cases held
  | cons first later =>
    simp only [methodOfItems,bind_ok_iff,Prod.exists,pure_ok_iff] at held ⊢
    obtain ⟨name,named,params,_,paramsRead,returns,_,returnsRead,same⟩ := held
    obtain ⟨_,paramsThere,later⟩ := item_respects (list_respects string_respects) later paramsRead
    obtain ⟨_,returnsThere,_⟩ := item_respects string_respects later returnsRead
    exact ⟨name,string_respects first named,params,_,paramsThere,returns,_,returnsThere,same⟩

theorem methodEntry_respects : Respects methodEntry := by
  refine record_respects method_meets ?_ methodOfItems_respects
  simp only [methodFields,List.forall_mem_cons,List.not_mem_nil,false_imp_iff,implies_true,and_true]
  exact ⟨string_respects,list_respects string_respects,string_respects⟩

theorem classOfItems_respects {c : ClassEntry} (moved : List.Forall₂ Rearranged items others)
    (held : classOfItems items = .ok c) : classOfItems others = .ok c := by
  cases moved with
  | nil => cases held
  | cons first later =>
    simp only [classOfItems,bind_ok_iff,Prod.exists,pure_ok_iff] at held ⊢
    obtain ⟨name,named,superclass,_,superRead,constructor,_,constructorRead,methods,_,methodsRead,same⟩ := held
    obtain ⟨_,superThere,later⟩ := item_respects (map_respects string_respects some) later superRead
    obtain ⟨_,constructorThere,later⟩ := item_respects (list_respects string_respects) later constructorRead
    obtain ⟨_,methodsThere,_⟩ := item_respects (list_respects methodEntry_respects) later methodsRead
    exact ⟨name,string_respects first named,superclass,_,superThere,constructor,_,constructorThere,methods,_,
      methodsThere,same⟩

theorem classEntry_respects : Respects classEntry := by
  refine record_respects class_meets ?_ classOfItems_respects
  simp only [classFields,List.forall_mem_cons,List.not_mem_nil,false_imp_iff,implies_true,and_true]
  exact ⟨string_respects,string_respects,list_respects string_respects,list_respects methodEntry_respects⟩

theorem loggingOfItems_respects {l : LoggingConfig} (moved : List.Forall₂ Rearranged items others)
    (held : loggingOfItems items = .ok l) : loggingOfItems others = .ok l := by
  simp only [loggingOfItems,bind_ok_iff,Prod.exists,pure_ok_iff] at held ⊢
  obtain ⟨level,_,levelRead,json,_,jsonRead,stderr,_,stderrRead,file,_,fileRead,same⟩ := held
  obtain ⟨_,levelThere,moved⟩ := item_respects string_respects moved levelRead
  obtain ⟨_,jsonThere,moved⟩ := item_respects boolean_respects moved jsonRead
  obtain ⟨_,stderrThere,moved⟩ := item_respects boolean_respects moved stderrRead
  obtain ⟨_,fileThere,_⟩ := item_respects (map_respects path_respects some) moved fileRead
  exact ⟨level,_,levelThere,json,_,jsonThere,stderr,_,stderrThere,file,_,fileThere,same⟩

theorem logging_respects : Respects logging := by
  refine record_respects logging_meets ?_ loggingOfItems_respects
  simp only [loggingFields,List.forall_mem_cons,List.not_mem_nil,false_imp_iff,implies_true,and_true]
  exact ⟨string_respects,boolean_respects,boolean_respects,path_respects⟩

end

end Config.Mapping

namespace Config

open Toml (Value)
open Toml.Value (Rearranged)

/-- The document as one value. It is never an array. -/
private theorem document_respects :
    Mapping.Respects (Mapping.record .config ofEntries fun _ => .error (.invalidLength 0 .config)) := by
  refine Mapping.record_respects Mapping.config_meets ?_ (fun _ held => by cases held)
  simp only [Mapping.configFields,List.forall_mem_cons,List.not_mem_nil,false_imp_iff,implies_true,and_true]
  exact ⟨Mapping.logging_respects,Mapping.list_respects Mapping.classEntry_respects⟩

theorem ofEntries_rearranged {document others : List (String × Value)}
    (rearranged : (Value.table document).Rearranged (.table others)) (c : Config) :
    ofEntries document = .ok c ↔ ofEntries others = .ok c :=
  ⟨fun held => document_respects rearranged held,
    fun held => document_respects (Toml.Value.rearranged_symm rearranged) held⟩

/-! ### Tables that cannot be read -/

/-- The table stands in the document where a record is called for. A class written as an array has its methods
    in the fourth place. -/
inductive StandsAt (document : List (String × Value)) : Record → List (String × Value) → Prop
  | config : StandsAt document .config document
  | logging {entries : List (String × Value)} : ("logging",.table entries) ∈ document →
      StandsAt document .logging entries
  | classEntry {classes : List Value} {entries : List (String × Value)} : ("classes",.array classes) ∈ document →
      .table entries ∈ classes → StandsAt document .classEntry entries
  | method {owner : List (String × Value)} {methods : List Value} {entries : List (String × Value)} :
      StandsAt document .classEntry owner → ("methods",.array methods) ∈ owner → .table entries ∈ methods →
      StandsAt document .methodEntry entries
  | methodInArray {classes methods rest : List Value} {name superclass constructor : Value}
      {entries : List (String × Value)} : ("classes",.array classes) ∈ document →
      .array (name :: superclass :: constructor :: .array methods :: rest) ∈ classes → .table entries ∈ methods →
      StandsAt document .methodEntry entries

/-- The table has a key that is none of its record's, or both keys for the superclass of a class. -/
inductive Misfit : Record → List (String × Value) → Prop
  | unknown {r : Record} {entries : List (String × Value)} {key : String} : key ∈ entries.map (·.1) →
      key ∉ r.keys → Misfit r entries
  | twice {entries : List (String × Value)} : "superclass" ∈ entries.map (·.1) →
      "extends" ∈ entries.map (·.1) → Misfit .classEntry entries

/-- The entries give the fields of the record. -/
def Gives : Record → List (String × Value) → Prop
  | .config, entries => ∃ f, Mapping.Written Mapping.configFields entries f
  | .logging, entries => ∃ f, Mapping.Written Mapping.loggingFields entries f
  | .classEntry, entries => ∃ f, Mapping.Written Mapping.classFields entries f
  | .methodEntry, entries => ∃ f, Mapping.Written Mapping.methodFields entries f

section
variable {document entries : List (String × Value)} {r : Record}

theorem gives_keys (gives : Gives r entries) {key : String} (used : key ∈ entries.map (·.1)) : key ∈ r.keys := by
  obtain ⟨entry,inside,rfl⟩ := List.mem_map.mp used
  cases r with
  | config =>
    obtain ⟨f,written⟩ := gives
    simpa [Mapping.configFields,Mapping.RecordField.spellings,Record.keys] using written.keys entry inside
  | logging =>
    obtain ⟨f,written⟩ := gives
    simpa [Mapping.loggingFields,Mapping.RecordField.spellings,Record.keys] using written.keys entry inside
  | classEntry =>
    obtain ⟨f,written⟩ := gives
    simpa [Mapping.classFields,Mapping.RecordField.spellings,Record.keys,or_assoc,or_left_comm] using
      written.keys entry inside
  | methodEntry =>
    obtain ⟨f,written⟩ := gives
    simpa [Mapping.methodFields,Mapping.RecordField.spellings,Record.keys] using written.keys entry inside

theorem gives_fits (gives : Gives r entries) : ¬ Misfit r entries := by
  intro misfit
  cases misfit with
  | unknown used strange => exact strange (gives_keys gives used)
  | twice first second =>
    obtain ⟨f,written⟩ := gives
    have superclass := written.fields _ (List.mem_cons_of_mem _ List.mem_cons_self)
    have same := Mapping.given_once superclass first second (by simp [Mapping.RecordField.spellings])
      (by simp [Mapping.RecordField.spellings])
    simp at same

theorem classes_read {c : Config} {classes : List Value} {v : Value} (read : ofEntries document = .ok c)
    (here : ("classes",.array classes) ∈ document) (inside : v ∈ classes) :
    ∃ entry, Mapping.classEntry v = .ok entry := by
  obtain ⟨f,written,_⟩ := (Mapping.finished_ok_iff Mapping.config_meets document _ c).mp read
  obtain ⟨_,_,listed⟩ := Mapping.given_entry
    (written.fields _ (List.mem_cons_of_mem _ List.mem_cons_self)) here (by simp [Mapping.RecordField.spellings])
  exact mapM_ok_each listed inside

theorem method_gives {m : MethodEntry} (read : Mapping.methodEntry (.table entries) = .ok m) :
    Gives .methodEntry entries := by
  obtain ⟨f,written,_⟩ := (Mapping.finished_ok_iff Mapping.method_meets entries _ m).mp read
  exact ⟨f,written⟩

/-- Where a document is read, every table in the place of a record gives its fields. -/
theorem stands_gives {c : Config} (read : ofEntries document = .ok c) (stands : StandsAt document r entries) :
    Gives r entries := by
  induction stands with
  | config =>
    obtain ⟨f,written,_⟩ := (Mapping.finished_ok_iff Mapping.config_meets document _ c).mp read
    exact ⟨f,written⟩
  | @logging entries here =>
    obtain ⟨f,written,_⟩ := (Mapping.finished_ok_iff Mapping.config_meets document _ c).mp read
    obtain ⟨l,_,settings⟩ := Mapping.given_entry (written.fields _ List.mem_cons_self) here
      (by simp [Mapping.RecordField.spellings])
    obtain ⟨g,gives,_⟩ := (Mapping.finished_ok_iff Mapping.logging_meets entries _ l).mp settings
    exact ⟨g,gives⟩
  | @classEntry classes entries here inside =>
    obtain ⟨entry,described⟩ := classes_read read here inside
    obtain ⟨f,written,_⟩ := (Mapping.finished_ok_iff Mapping.class_meets entries _ entry).mp described
    exact ⟨f,written⟩
  | @method owner methods entries _ here inside ih =>
    obtain ⟨f,written⟩ := ih
    obtain ⟨_,_,listed⟩ := Mapping.given_entry
      (written.fields _ (List.mem_cons_of_mem _ (List.mem_cons_of_mem _ (List.mem_cons_of_mem _ List.mem_cons_self))))
      here (by simp [Mapping.RecordField.spellings])
    obtain ⟨m,described⟩ := mapM_ok_each listed inside
    exact method_gives described
  | @methodInArray classes methods rest name superclass constructor entries here inside within =>
    obtain ⟨entry,described⟩ := classes_read read here inside
    have items : Mapping.classOfItems (name :: superclass :: constructor :: .array methods :: rest) = .ok entry :=
      described
    simp only [Mapping.classOfItems,bind_ok_iff,Prod.exists] at items
    obtain ⟨_,_,_,_,superRead,_,_,constructorRead,_,_,methodsRead,_⟩ := items
    obtain ⟨_,_,⟨⟩⟩ := (map_ok_iff _ _ _).mp superRead
    obtain ⟨_,_,⟨⟩⟩ := (map_ok_iff _ _ _).mp constructorRead
    obtain ⟨_,listed,⟨⟩⟩ := (map_ok_iff _ _ _).mp methodsRead
    obtain ⟨m,described⟩ := mapM_ok_each listed within
    exact method_gives described

end

/-- The order of keys makes no difference between two documents. -/
structure OrderFree (document others : List (String × Value)) : Prop where
  verdict : (∃ c, ofEntries document = .ok c) ↔ ∃ c, ofEntries others = .ok c
  same : ∀ c d, ofEntries document = .ok c → ofEntries others = .ok d → c = d
  /-- Texts of the two documents are loaded alike. -/
  texts : ∀ text other, Toml.parse? text = some document → Toml.parse? other = some others →
    ∀ c, ofText text = .ok c ↔ ofText other = .ok c
  /-- An unknown key, or a second key for the superclass, is refused wherever it stands. -/
  refused : ∀ r entries, StandsAt document r entries → Misfit r entries → ∃ e, ofEntries others = .error e

/-- Documents that differ in the order of keys only are both read, as one configuration, or both refused. -/
theorem loading_orderFree {document others : List (String × Value)}
    (rearranged : (Value.table document).Rearranged (.table others)) : OrderFree document others := by
  have read_iff := ofEntries_rearranged rearranged
  refine ⟨exists_congr read_iff,?_,?_,?_⟩
  · intro c d first second
    rw [(read_iff c).mp first] at second
    exact Except.ok.inj second
  · intro text other parsed reparsed c
    simp only [ofText_ok_iff,parsed,reparsed,Option.some.injEq,exists_eq_left',read_iff]
  · intro r entries stands misfit
    cases result : ofEntries others with
    | error e => exact ⟨e,rfl⟩
    | ok c => exact absurd misfit (gives_fits (stands_gives ((read_iff c).mpr result) stands))

/-- Keys in another order at the top, in the settings and in a class: without a second key for the superclass
    both documents are read, with one neither is. -/
theorem turnedKennel_orderFree :
    let document (dog : List (String × Value)) : List (String × Value) :=
      [("logging",.table [("level",.string "debug"),("json",.boolean true)]),("classes",.array [.table dog])]
    let turned (dog : List (String × Value)) : List (String × Value) :=
      [("classes",.array [.table dog]),("logging",.table [("json",.boolean true),("level",.string "debug")])]
    let dog : List (String × Value) := [("name",.string "Dog"),("extends",.string "Animal")]
    let second : String × Value := ("superclass",.string "Object")
    ofEntries (turned dog.reverse) =
        .ok { logging := { level := "debug", json := true }
              classes := [{ name := "Dog", superclass := some "Animal" }] } ∧
      OrderFree (document dog) (turned dog.reverse) ∧
      ∃ e, ofEntries (turned (second :: dog).reverse) = .error e := by
  intro document turned dog second
  have moved (entries : List (String × Value)) :
      (Value.table (document entries)).Rearranged (.table (turned entries.reverse)) := by
    have inClass : (Value.table entries).Rearranged (.table entries.reverse) := .keys entries.reverse_perm.symm
    have inLogging : (Value.table [("level",.string "debug"),("json",.boolean true)]).Rearranged
        (.table [("json",.boolean true),("level",.string "debug")]) := .keys (.swap _ _ _)
    have classTurned : (Value.table (document entries)).Rearranged (.table (document entries.reverse)) :=
      @Rearranged.entry [_] [] _ _ _ (@Rearranged.item [] [] _ _ inClass)
    exact classTurned.trans (.trans (@Rearranged.entry [] [_] _ _ _ inLogging) (.keys (.swap _ _ _)))
  have stands : StandsAt (document (second :: dog)) .classEntry (second :: dog) :=
    .classEntry (List.mem_cons_of_mem _ List.mem_cons_self) List.mem_cons_self
  have misfit : Misfit .classEntry (second :: dog) := .twice (by simp [second]) (by simp [dog])
  exact ⟨rfl,loading_orderFree (moved dog),
    (loading_orderFree (moved (second :: dog))).refused .classEntry _ stands misfit⟩

end Config

end Nominal
