import Nominal.Config.Schema

/-!
What a JSON schema says of a value. The keywords are read off the schema as JSON, so the meaning is that
of the published text and not of the data it was made from. A keyword for members or for items says
nothing of values of other types, and a reference stands alone: keywords beside it do not count.
-/

namespace Nominal

namespace Json

/-- The members of an object; other values have none. -/
def members : Json → List (String × Json)
  | object members => members
  | _ => []

/-- The items of an array; other values have none. -/
def items : Json → List Json
  | array items => items
  | _ => []

@[simp]
theorem members_object (members : List (String × Json)) : (object members).members = members := rfl

@[simp]
theorem items_array (items : List Json) : (array items).items = items := rfl

/-- The number has no fraction. -/
def Whole : Decimal.Binary64 → Prop
  | .finite _ mantissa exponent => mantissa % Nat.pow 2 (-exponent).toNat = 0
  | _ => False

/-- The value has the type of the given name. -/
def OfType (name : String) : Json → Prop
  | null => name = "null"
  | boolean _ => name = "boolean"
  | integer _ => name = "integer" ∨ name = "number"
  | real x => name = "number" ∨ (name = "integer" ∧ Whole x)
  | string _ => name = "string"
  | array _ => name = "array"
  | object _ => name = "object"

/-- The definition of the given name in a schema document. -/
def definition? (document : Json) (name : String) : Option Json :=
  (document.members.lookup "definitions").bind (·.members.lookup name)

/-- The keyword for types allows the value: it names one type, or several in an array. -/
def Allows (j : Json) : Json → Prop
  | string name => j.OfType name
  | array names => ∃ name, string name ∈ names ∧ j.OfType name
  | _ => False

/-- The schema of a member under the keyword for properties. -/
def property? (keywords : List (String × Json)) (key : String) : Option Json :=
  (keywords.lookup "properties").bind (·.members.lookup key)

/-- The value is valid under a schema that stands in the given document. -/
inductive Obeys (document : Json) : (schema j : Json) → Prop
  | anything (j : Json) : Obeys document (.boolean true) j
  | reference {keywords : List (String × Json)} {name : String} {target j : Json}
      (given : keywords.lookup "$ref" = some (.string ("#/definitions/" ++ name)))
      (found : document.definition? name = some target) (held : Obeys document target j) :
      Obeys document (.object keywords) j
  | keywords {keywords : List (String × Json)} {j : Json} (plain : keywords.lookup "$ref" = none)
      (typed : ∀ types, keywords.lookup "type" = some types → j.Allows types)
      (complete : ∀ names, keywords.lookup "required" = some (.array names) →
        ∀ members, j = .object members → ∀ name, .string name ∈ names → name ∈ members.map (·.1))
      (described : ∀ key v, (key,v) ∈ j.members → ∀ schema, property? keywords key = some schema →
        Obeys document schema v)
      (additional : ∀ key v, (key,v) ∈ j.members → property? keywords key = none →
        ∀ schema, keywords.lookup "additionalProperties" = some schema → Obeys document schema v)
      (each : ∀ schema, keywords.lookup "items" = some schema → ∀ item ∈ j.items,
        Obeys document schema item)
      (all : ∀ schemas, keywords.lookup "allOf" = some (.array schemas) → ∀ schema ∈ schemas,
        Obeys document schema j) :
      Obeys document (.object keywords) j

theorem obeys_plain_iff {document : Json} {keywords : List (String × Json)} {j : Json}
    (plain : keywords.lookup "$ref" = none) :
    Obeys document (.object keywords) j ↔
      (∀ types, keywords.lookup "type" = some types → j.Allows types) ∧
      (∀ names, keywords.lookup "required" = some (.array names) →
        ∀ members, j = .object members → ∀ name, .string name ∈ names → name ∈ members.map (·.1)) ∧
      (∀ key v, (key,v) ∈ j.members → ∀ schema, property? keywords key = some schema →
        Obeys document schema v) ∧
      (∀ key v, (key,v) ∈ j.members → property? keywords key = none →
        ∀ schema, keywords.lookup "additionalProperties" = some schema → Obeys document schema v) ∧
      (∀ schema, keywords.lookup "items" = some schema → ∀ item ∈ j.items, Obeys document schema item) ∧
      ∀ schemas, keywords.lookup "allOf" = some (.array schemas) → ∀ schema ∈ schemas,
        Obeys document schema j := by
  constructor
  · intro obeys
    cases obeys with
    | reference given _ _ => simp [plain] at given
    | keywords _ typed complete described additional each all =>
      exact ⟨typed,complete,described,additional,each,all⟩
  · rintro ⟨typed,complete,described,additional,each,all⟩
    exact .keywords plain typed complete described additional each all

theorem not_obeys_false (document j : Json) : ¬ Obeys document (.boolean false) j := by
  intro obeys
  cases obeys

theorem obeys_reference_iff {document : Json} {keywords : List (String × Json)} {j : Json} {name : String}
    (given : keywords.lookup "$ref" = some (.string ("#/definitions/" ++ name))) :
    Obeys document (.object keywords) j ↔
      ∃ target, document.definition? name = some target ∧ Obeys document target j := by
  constructor
  · intro obeys
    cases obeys with
    | reference other found held =>
      simp [given] at other
      subst other
      exact ⟨_,found,held⟩
    | keywords plain => simp [plain] at given
  · rintro ⟨target,found,held⟩
    exact .reference given found held

/-- The keywords that say something of a value. -/
def readKeywords : List String :=
  ["$ref","type","required","properties","additionalProperties","items","allOf"]

/-- Other keywords change nothing. -/
theorem obeys_unread {document : Json} {a b : List (String × Json)} {j : Json}
    (same : ∀ name ∈ readKeywords, a.lookup name = b.lookup name) (obeys : Obeys document (.object a) j) :
    Obeys document (.object b) j := by
  simp only [readKeywords,List.forall_mem_cons] at same
  obtain ⟨ref,type,required,properties,additional,items,all,_⟩ := same
  have property : property? a = property? b := by
    funext key
    rw [property?,property?,properties]
  cases obeys with
  | reference given found held => exact .reference (ref ▸ given) found held
  | keywords plain typed complete described others each conjuncts =>
    exact .keywords (ref ▸ plain) (type ▸ typed) (required ▸ complete) (property ▸ described)
      (property ▸ additional ▸ others) (items ▸ each) (all ▸ conjuncts)

end Json

namespace Schema

theorem allToJson_eq (schemas : List Schema) : allToJson schemas = schemas.map toJson := by
  induction schemas with
  | nil => rfl
  | cons first rest ih => rw [allToJson,ih,List.map_cons]

theorem lookup_propertiesToJson (properties : List (String × Schema)) (key : String) :
    (propertiesToJson properties).lookup key = (properties.lookup key).map toJson := by
  induction properties with
  | nil => rfl
  | cons first rest ih =>
    obtain ⟨name,s⟩ := first
    rw [propertiesToJson,List.lookup_cons,List.lookup_cons,ih]
    split <;> rfl

/-- The content of the keyword for types. -/
def typesContent : List SchemaType → Option Json
  | [] => none
  | [t] => some (.string t.name)
  | ts => some (.strings (ts.map (·.name)))

/-- The keywords of a schema in order, each with its content if it has any. -/
def contents (s : Schema) : List (String × Option Json) :=
  [("type",typesContent s.types),
   ("properties",if s.properties.isEmpty then none else some (.object (propertiesToJson s.properties))),
   ("required",if s.required.isEmpty then none else some (.strings s.required)),
   ("additionalProperties",if s.closed then some (.boolean false) else none),
   ("items",s.items.map toJson),
   ("allOf",if s.allOf.isEmpty then none else some (.array (allToJson s.allOf))),
   ("$ref",(s.reference.map ("#/definitions/" ++ ·)).map .string),
   ("title",s.title.map .string),
   ("description",s.description.map .string),
   ("default",s.default)]

/-- A keyword in JSON if it has content. -/
def entry (keyword : String) (content : Option Json) : List (String × Json) :=
  content.toList.map (keyword,·)

theorem entry_types (types : List SchemaType) : entry "type" (typesContent types) = typesToJson types := by
  rcases types with _ | ⟨t,_ | ⟨u,ts⟩⟩ <;> rfl

theorem entry_unless (empty : Bool) (keyword : String) (content : Json) :
    entry keyword (if empty then none else some content) = if empty then [] else [(keyword,content)] := by
  cases empty <;> rfl

theorem entry_when (given : Bool) (keyword : String) (content : Json) :
    entry keyword (if given then some content else none) = if given then [(keyword,content)] else [] := by
  cases given <;> rfl

theorem entry_text (keyword : String) (text : Option String) :
    entry keyword (text.map .string) = textToJson keyword text := by
  cases text <;> rfl

theorem toJson_eq (s : Schema) :
    s.toJson = .object (s.contents.flatMap fun (keyword,content) => entry keyword content) := by
  obtain ⟨types,properties,required,closed,items,allOf,reference,title,description,default⟩ := s
  unfold toJson
  simp only [contents,List.flatMap_cons,List.flatMap_nil,entry_types,entry_unless,entry_when,entry_text,
    List.append_assoc,List.append_nil]
  cases items <;> rfl

theorem toJson_object (s : Schema) : s.toJson = .object s.toJson.members := by
  rw [toJson_eq,Json.members_object]

theorem lookup_entry (keyword name : String) (content : Option Json) :
    (entry keyword content).lookup name = if name = keyword then content else none := by
  cases content with
  | none => simp [entry]
  | some v =>
    by_cases same : name = keyword
    · simp [entry,same]
    · have differs : (name == keyword) = false := by simpa using same
      simp [entry,List.lookup_cons,differs,same]

/-- Each keyword is written with its own content. -/
theorem lookup_entries {contents : List (String × Option Json)} (distinct : (contents.map (·.1)).Nodup)
    (name : String) :
    (contents.flatMap fun (keyword,content) => entry keyword content).lookup name =
      (contents.lookup name).join := by
  induction contents with
  | nil => rfl
  | cons first rest ih =>
    obtain ⟨keyword,content⟩ := first
    obtain ⟨fresh,others⟩ := List.nodup_cons.mp distinct
    rw [List.flatMap_cons,List.lookup_append,lookup_entry,ih others,List.lookup_cons]
    by_cases same : name = keyword
    · subst same
      have absent : rest.lookup name = none := by
        rw [List.lookup_eq_none_iff]
        intro p here
        simp only [bne_iff_ne,ne_eq]
        intro same
        exact fresh (List.mem_map.mpr ⟨p,here,same.symm⟩)
      simp [absent]
    · have differs : (name == keyword) = false := by simpa using same
      simp [same,differs]

theorem toJson_keyword (s : Schema) (name : String) :
    s.toJson.members.lookup name = (s.contents.lookup name).join := by
  rw [toJson_eq,Json.members_object]
  exact lookup_entries (by simp [contents]) name

theorem toJson_property (s : Schema) (key : String) :
    Json.property? s.toJson.members key = (s.properties.lookup key).map toJson := by
  rw [Json.property?,toJson_keyword,← lookup_propertiesToJson]
  cases here : s.properties with
  | nil => simp [contents,List.lookup_cons,here,propertiesToJson]
  | cons first rest => simp [contents,List.lookup_cons,here]

theorem allows_strings_iff (types : List SchemaType) (j : Json) :
    j.Allows (.strings (types.map (·.name))) ↔ ∃ t ∈ types, j.OfType t.name := by
  constructor
  · rintro ⟨name,listed,held⟩
    obtain ⟨t,here,rfl⟩ : ∃ t ∈ types, t.name = name := by simpa using listed
    exact ⟨t,here,held⟩
  · rintro ⟨t,here,held⟩
    exact ⟨t.name,by simpa using ⟨t,here,rfl⟩,held⟩

theorem allows_iff (types : List SchemaType) (j : Json) :
    (∀ content, typesContent types = some content → j.Allows content) ↔
      types = [] ∨ ∃ t ∈ types, j.OfType t.name := by
  rcases types with _ | ⟨t,_ | ⟨u,ts⟩⟩
  · simp [typesContent]
  · simp [typesContent,Json.Allows]
  · simpa [typesContent] using allows_strings_iff (t :: u :: ts) j

open Json (Obeys not_obeys_false)

variable {document j : Json} {s : Schema}

/-- What a schema without a reference says of a value. -/
theorem obeys_iff (plain : s.reference = none) :
    Obeys document s.toJson j ↔
      (s.types = [] ∨ ∃ t ∈ s.types, j.OfType t.name) ∧
      (∀ members, j = .object members → ∀ name ∈ s.required, name ∈ members.map (·.1)) ∧
      (∀ key v, (key,v) ∈ j.members → ∀ sub, s.properties.lookup key = some sub → Obeys document sub.toJson v) ∧
      (∀ key v, (key,v) ∈ j.members → s.properties.lookup key = none → s.closed = false) ∧
      (∀ sub, s.items = some sub → ∀ item ∈ j.items, Obeys document sub.toJson item) ∧
      ∀ sub ∈ s.allOf, Obeys document sub.toJson j := by
  have unreferred : s.toJson.members.lookup "$ref" = none := by
    rw [toJson_keyword]
    simp [contents,List.lookup_cons,plain]
  rw [toJson_object,Json.obeys_plain_iff unreferred]
  simp only [toJson_property,toJson_keyword]
  -- One keyword after the other; those for required members, for other members and for conjuncts are
  -- left out when they have nothing to say.
  refine and_congr (allows_iff _ _) (and_congr ?_ (and_congr ?_ (and_congr ?_ (and_congr ?_ ?_))))
  · cases here : s.required with
    | nil => simp [contents,List.lookup_cons,here]
    | cons first rest => simp [contents,List.lookup_cons,here,Json.strings]
  · simp
  · cases here : s.closed with
    | false => simp [contents,List.lookup_cons,here]
    | true => simp [contents,List.lookup_cons,here,not_obeys_false]
  · simp [contents,List.lookup_cons]
  · cases here : s.allOf with
    | nil => simp [contents,List.lookup_cons,here]
    | cons first rest => simp [contents,List.lookup_cons,here,allToJson_eq]

theorem obeys_ref_iff (name : String) :
    Obeys document (ref name).toJson j ↔
      ∃ target, document.definition? name = some target ∧ Obeys document target j := by
  have given : (ref name).toJson.members.lookup "$ref" = some (.string ("#/definitions/" ++ name)) := by
    rw [toJson_keyword]
    simp [contents,ref,List.lookup_cons]
  rw [toJson_object,Json.obeys_reference_iff given]

/-- A value of one of some types. -/
theorem obeys_types_iff {types : List SchemaType} (given : types ≠ []) (description : Option String)
    (default : Option Json) :
    Obeys document { types, description, default : Schema }.toJson j ↔ ∃ t ∈ types, j.OfType t.name := by
  rw [obeys_iff rfl]
  simp [given]

/-- A value that obeys several schemas. -/
theorem obeys_allOf_iff (allOf : List Schema) (description : Option String) (default : Option Json) :
    Obeys document { allOf, description, default : Schema }.toJson j ↔
      ∀ sub ∈ allOf, Obeys document sub.toJson j := by
  rw [obeys_iff rfl]
  simp

theorem ofType_array_iff : j.OfType "array" ↔ ∃ items, j = .array items := by
  cases j <;> simp [Json.OfType]

theorem ofType_object_iff : j.OfType "object" ↔ ∃ members, j = .object members := by
  cases j <;> simp [Json.OfType]

theorem obeys_arrayOf_iff (sub : Schema) (description : Option String) :
    Obeys document (arrayOf sub description).toJson j ↔
      ∃ items, j = .array items ∧ ∀ item ∈ items, Obeys document sub.toJson item := by
  rw [obeys_iff rfl]
  simp only [arrayOf,List.mem_singleton,exists_eq_left,SchemaType.name,reduceCtorEq,false_or,ofType_array_iff]
  constructor
  · rintro ⟨⟨items,rfl⟩,_,_,_,each,_⟩
    exact ⟨items,rfl,each sub rfl⟩
  · rintro ⟨items,rfl,each⟩
    simpa [Json.members] using each

/-- An object that has the members required and none but those with a schema, each of which holds. -/
theorem obeys_closed_iff (properties : List (String × Schema)) (required : List String)
    (title description : Option String) (default : Option Json) :
    Obeys document { closedObject properties required with title, description, default }.toJson j ↔
      ∃ members, j = .object members ∧ (∀ name ∈ required, name ∈ members.map (·.1)) ∧
        ∀ key v, (key,v) ∈ members → ∃ sub, properties.lookup key = some sub ∧ Obeys document sub.toJson v := by
  rw [obeys_iff rfl]
  simp only [closedObject,List.mem_singleton,exists_eq_left,SchemaType.name,reduceCtorEq,false_or,ofType_object_iff]
  constructor
  · rintro ⟨⟨members,rfl⟩,complete,described,closed,_⟩
    refine ⟨members,rfl,complete members rfl,?_⟩
    intro key v here
    cases found : properties.lookup key with
    | none => exact absurd (closed key v here found) (by simp)
    | some sub => exact ⟨sub,rfl,described key v here sub found⟩
  · rintro ⟨members,rfl,complete,described⟩
    refine ⟨⟨members,rfl⟩,?_,?_,?_,by simp,by simp⟩
    · rintro _ ⟨⟩
      exact complete
    · intro key v here sub found
      obtain ⟨other,same,held⟩ := described key v here
      cases found.symm.trans same
      exact held
    · intro key v here absent
      obtain ⟨_,found,_⟩ := described key v here
      cases absent.symm.trans found

end Schema

end Nominal
