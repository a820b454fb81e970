import Nominal.Config
import Nominal.Json

/-!
Configurations as JSON. Writing gives every field; reading takes missing fields at their defaults,
`extends` for `superclass`, and records written as arrays of their fields, but no surplus items.
-/

namespace Nominal

namespace MethodEntry

def toJson (m : MethodEntry) : Json :=
  .object [("name",.string m.name),("params",.strings m.params),("returns",.string m.returns)]

end MethodEntry

namespace ClassEntry

def toJson (c : ClassEntry) : Json :=
  .object
    [("name",.string c.name),("superclass",.ofString? c.superclass),
     ("constructor",.strings c.constructor),("methods",.array (c.methods.map (·.toJson)))]

end ClassEntry

namespace LoggingConfig

def toJson (l : LoggingConfig) : Json :=
  .object
    [("level",.string l.level),("json",.boolean l.json),("stderr",.boolean l.stderr),
     ("file",.ofString? l.file)]

end LoggingConfig

namespace Config

def toJson (c : Config) : Json :=
  .object [("logging",c.logging.toJson),("classes",.array (c.classes.map (·.toJson)))]

end Config

namespace MethodEntry

def ofJson? (j : Json) : Option MethodEntry := do
  match ← j.fields? [["name"],["params"],["returns"]] with
  | [name,params,returns] =>
    let name ← name.bind (·.string?)
    let absent : MethodEntry := { name }
    let params ← Json.fieldD absent.params (·.list? (·.string?)) params
    let returns ← Json.fieldD absent.returns (·.string?) returns
    return { name, params, returns }
  | _ => none

end MethodEntry

namespace ClassEntry

def ofJson? (j : Json) : Option ClassEntry := do
  match ← j.fields? [["name"],["superclass","extends"],["constructor"],["methods"]] with
  | [name,superclass,constructor,methods] =>
    let name ← name.bind (·.string?)
    let absent : ClassEntry := { name }
    let superclass ← Json.fieldD absent.superclass (·.nullableString?) superclass
    let constructor ← Json.fieldD absent.constructor (·.list? (·.string?)) constructor
    let methods ← Json.fieldD absent.methods (·.list? MethodEntry.ofJson?) methods
    return { name, superclass, constructor, methods }
  | _ => none

end ClassEntry

namespace LoggingConfig

def ofJson? (j : Json) : Option LoggingConfig := do
  let absent : LoggingConfig := {}
  match ← j.fields? [["level"],["json"],["stderr"],["file"]] with
  | [level,json,stderr,file] =>
    let level ← Json.fieldD absent.level (·.string?) level
    let json ← Json.fieldD absent.json (·.boolean?) json
    let stderr ← Json.fieldD absent.stderr (·.boolean?) stderr
    let file ← Json.fieldD absent.file (·.nullableString?) file
    return { level, json, stderr, file }
  | _ => none

end LoggingConfig

namespace Config

def ofJson? (j : Json) : Option Config := do
  let absent : Config := {}
  match ← j.fields? [["logging"],["classes"]] with
  | [logging,classes] =>
    let logging ← Json.fieldD absent.logging LoggingConfig.ofJson? logging
    let classes ← Json.fieldD absent.classes (·.list? ClassEntry.ofJson?) classes
    return { logging, classes }
  | _ => none

end Config

end Nominal
