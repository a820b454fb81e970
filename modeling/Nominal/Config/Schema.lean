import Nominal.Config.JsonForm

/-!
The JSON schema of a configuration, for editors and validators, as data and as JSON. Only the keywords
that it needs are there.
-/

namespace Nominal

/-- The JSON types that the schema speaks of. -/
inductive SchemaType where
  | string
  | boolean
  | array
  | object
  | null
  deriving DecidableEq, Repr

def SchemaType.name : SchemaType → String
  | string => "string"
  | boolean => "boolean"
  | array => "array"
  | object => "object"
  | null => "null"

/-- A schema: constraints on a value, and notes to the reader. -/
structure Schema where
  /-- The types of which the value has one; no types allow every value. -/
  types : List SchemaType := []
  /-- The schemas of members of an object. -/
  properties : List (String × Schema) := []
  /-- The members that an object must have. -/
  required : List String := []
  /-- Whether an object has no members beside its properties. -/
  closed : Bool := false
  /-- The schema of every item of an array. -/
  items : Option Schema := none
  /-- Schemas that hold as well. -/
  allOf : List Schema := []
  /-- The name of a definition that holds as well. -/
  reference : Option String := none
  title : Option String := none
  description : Option String := none
  default : Option Json := none

namespace Schema

/-- A string. -/
def string : Schema := { types := [.string] }

/-- A value that obeys the definition of the given name. -/
def ref (name : String) : Schema := { reference := some name }

/-- An array, empty by default, whose items obey a schema. -/
def arrayOf (items : Schema) (description : Option String) : Schema :=
  { types := [.array], items := some items, description, default := some (.array []) }

/-- An object with no other members than the given ones. -/
def closedObject (properties : List (String × Schema)) (required : List String) : Schema :=
  { types := [.object], properties, required, closed := true }

def typesToJson : List SchemaType → List (String × Json)
  | [] => []
  | [t] => [("type",.string t.name)]
  | ts => [("type",.strings (ts.map (·.name)))]

/-- A keyword with a text, if there is one. -/
def textToJson (keyword : String) (text : Option String) : List (String × Json) :=
  text.toList.map fun s => (keyword,.string s)

mutual

/-- The schema in JSON; keywords without content are left out. -/
def toJson : Schema → Json
  | { types, properties, required, closed, items, allOf, reference, title, description, default } =>
    .object <|
      typesToJson types ++
      (if properties.isEmpty then [] else [("properties",.object (propertiesToJson properties))]) ++
      (if required.isEmpty then [] else [("required",.strings required)]) ++
      (if closed then [("additionalProperties",.boolean false)] else []) ++
      (match items with
        | none => []
        | some s => [("items",s.toJson)]) ++
      (if allOf.isEmpty then [] else [("allOf",.array (allToJson allOf))]) ++
      textToJson "$ref" (reference.map ("#/definitions/" ++ ·)) ++
      textToJson "title" title ++
      textToJson "description" description ++
      default.toList.map fun v => ("default",v)

def propertiesToJson : List (String × Schema) → List (String × Json)
  | [] => []
  | (name,s) :: rest => (name,s.toJson) :: propertiesToJson rest

def allToJson : List Schema → List Json
  | [] => []
  | s :: rest => s.toJson :: allToJson rest

end

end Schema

namespace Config.Published

/-- The schema of a method of an entry. -/
def methodSchema : Schema :=
  .closedObject
    [("name",.string),
     ("params",.arrayOf .string none),
     ("returns",
      { types := [.string]
        description := some "Return type. Defaults to `void`."
        default := some (.string "void") })]
    ["name"]

/-- The schema of an entry of the class table. -/
def classSchema : Schema :=
  { Schema.closedObject
      [("name",.string),
       ("superclass",
        { types := [.string,.null]
          description := some "Superclass name. Defaults to `Object`."
          default := some .null }),
       ("constructor",
        .arrayOf .string (some "Parameter types of the class's single constructor.")),
       ("methods",.arrayOf (.ref "MethodConfig") none)]
      ["name"] with
    description := some "One `[[classes]]` entry of the class table." }

/-- The schema of the logging settings. -/
def loggingSchema : Schema :=
  let absent : LoggingConfig := {}
  .closedObject
    [("level",
      { types := [.string]
        description := some "Logging level for all Nova crates."
        default := some (.string absent.level) }),
     ("json",
      { types := [.boolean]
        description := some "Emit logs in JSON format."
        default := some (.boolean absent.json) }),
     ("stderr",
      { types := [.boolean]
        description := some "Write logs to stderr."
        default := some (.boolean absent.stderr) }),
     ("file",
      { types := [.string,.null]
        description := some <|
          "Append logs to the given file path.\n\n" ++
          "If the file cannot be opened, file logging is disabled while other sinks " ++
          "remain active."
        default := some .null })]
    []

/-- The schema of a whole configuration. -/
def configSchema : Schema :=
  { Schema.closedObject
      [("logging",
        { allOf := [.ref "LoggingConfig"]
          description := some "Global logging settings for Nova crates."
          default := some ({} : LoggingConfig).toJson }),
       ("classes",
        .arrayOf (.ref "ClassConfig")
          (some "User-defined classes registered on top of the built-in `Object` and `String`."))]
      [] with
    title := some "NovaConfig"
    description := some <|
      "Top-level `nova.toml`.\n\n```toml [logging] level = \"debug\"\n\n" ++
      "[[classes]] name = \"Animal\" methods = [\x7b name = \"speak\", returns = \"String\" \x7d]\n\n" ++
      "[[classes]] name = \"Dog\" superclass = \"Animal\" ```" }

/-- The schemas that others refer to by name. -/
def definitions : List (String × Schema) :=
  [("ClassConfig",classSchema),("LoggingConfig",loggingSchema),("MethodConfig",methodSchema)]

/-- The published document: the schema of a configuration together with the definitions. -/
def document : Json :=
  match configSchema.toJson with
  | .object members =>
    .object
      (("$schema",.string "http://json-schema.org/draft-07/schema#") :: members ++
        [("definitions",.object (Schema.propertiesToJson definitions))])
  | j => j

end Config.Published

end Nominal
