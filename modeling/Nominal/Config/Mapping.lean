import Nominal.Config
import Nominal.Text.Quoted
import Nominal.Toml.Table

/-!
Reading a configuration off the data of a TOML document. The keys of a table are visited in order and
the first problem ends the reading. A record may also be written as an array of its fields in their
fixed order; then fields at the end may be left out and surplus items are ignored.
-/

namespace Nominal.Config

open Toml (Value)

/-- The records of a configuration that have keys of their own. -/
inductive Record where
  | config
  | logging
  | classEntry
  | methodEntry
  deriving DecidableEq, Repr

namespace Record

def title : Record → String
  | config => "NovaConfig"
  | logging => "LoggingConfig"
  | classEntry => "ClassConfig"
  | methodEntry => "MethodConfig"

/-- The keys of a record, alternative spellings included. -/
def keys : Record → List String
  | config => ["logging","classes"]
  | logging => ["level","json","stderr","file"]
  | classEntry => ["name","extends","superclass","constructor","methods"]
  | methodEntry => ["name","params","returns"]

/-- The number of fields of a record. -/
def width : Record → Nat
  | config => 2
  | logging => 4
  | classEntry => 4
  | methodEntry => 3

end Record

/-- What a place in a configuration calls for. -/
inductive Wanted where
  | string
  | path
  | boolean
  | sequence
  | record (r : Record)
  deriving DecidableEq, Repr

def Wanted.text : Wanted → String
  | string => "a string"
  | path => "path string"
  | boolean => "a boolean"
  | sequence => "a sequence"
  | record r => s!"struct {r.title}"

/-- Why the data of a document is not a configuration. -/
inductive MappingError where
  | unknownField (name : String) (owner : Record)
  | missingField (name : String)
  | duplicateField (name : String)
  | invalidType (found : Value) (wanted : Wanted)
  /-- A record written as an array that ends before a field without a default. -/
  | invalidLength (length : Nat) (owner : Record)
  deriving Repr

/-- A value as a message names it. Dates and times count as maps. -/
def describeValue : Value → String
  | .string s => s!"string {Text.quote s}"
  | .integer n => s!"integer `{n}`"
  | .float x => s!"floating point `{x.text}`"
  | .boolean b => s!"boolean `{b}`"
  | .datetime _ => "map"
  | .array _ => "sequence"
  | .table _ => "map"

/-- The names of which one was expected. -/
def oneOf (names : List String) : String :=
  match names.map fun name => s!"`{name}`" with
  | [first,second] => s!"{first} or {second}"
  | quoted => "one of " ++ ", ".intercalate quoted

def MappingError.message : MappingError → String
  | unknownField name owner => s!"unknown field `{name}`, expected {oneOf owner.keys}"
  | missingField name => s!"missing field `{name}`"
  | duplicateField name => s!"duplicate field `{name}`"
  | invalidType found wanted => s!"invalid type: {describeValue found}, expected {wanted.text}"
  | invalidLength length owner =>
    s!"invalid length {length}, expected struct {owner.title} with {owner.width} elements"

namespace Mapping

def string : Value → Except MappingError String
  | .string s => .ok s
  | v => .error (.invalidType v .string)

def path : Value → Except MappingError String
  | .string s => .ok s
  | v => .error (.invalidType v .path)

def boolean : Value → Except MappingError Bool
  | .boolean b => .ok b
  | v => .error (.invalidType v .boolean)

/-- A list whose items are read in order. -/
def list {α : Type} (item : Value → Except MappingError α) : Value → Except MappingError (List α)
  | .array items => items.mapM item
  | v => .error (.invalidType v .sequence)

/-- The key under which a date or time stands in its place when entries are called for. -/
def datetimeKey : String := "$__toml_private_datetime"

/-- A record, from the entries of a table or from the items of an array. -/
def record {α : Type} (r : Record) (fromEntries : List (String × Value) → Except MappingError α)
    (fromItems : List Value → Except MappingError α) : Value → Except MappingError α
  | .table entries => fromEntries entries
  | .datetime written => fromEntries [(datetimeKey,.string written)]
  | .array items => fromItems items
  | v => .error (.invalidType v (.record r))

/-- Sets a field that must not be set yet. -/
def once {α : Type} (name : String) (field : Option α) (read : Value → Except MappingError α)
    (v : Value) : Except MappingError (Option α) :=
  if field.isSome then .error (.duplicateField name) else some <$> read v

/-- The item at the front if there is one, and the items after it. -/
def item {α : Type} (default : α) (read : Value → Except MappingError α) :
    List Value → Except MappingError (α × List Value)
  | [] => .ok (default,[])
  | v :: rest => (·,rest) <$> read v

/-- The fields of a method met so far. -/
structure MethodFields where
  name : Option String := none
  params : Option (List String) := none
  returns : Option String := none

def MethodFields.visit (f : MethodFields) (entry : String × Value) :
    Except MappingError MethodFields := do
  let (key,v) := entry
  match key with
  | "name" => return { f with name := ← once "name" f.name string v }
  | "params" => return { f with params := ← once "params" f.params (list string) v }
  | "returns" => return { f with returns := ← once "returns" f.returns string v }
  | _ => throw (.unknownField key .methodEntry)

def MethodFields.finish (f : MethodFields) : Except MappingError MethodEntry :=
  match f.name with
  | none => .error (.missingField "name")
  | some name =>
    let absent : MethodEntry := { name }
    .ok { name
          params := f.params.getD absent.params
          returns := f.returns.getD absent.returns }

def methodOfEntries (entries : List (String × Value)) : Except MappingError MethodEntry := do
  let fields ← entries.foldlM MethodFields.visit {}
  fields.finish

def methodOfItems (items : List Value) : Except MappingError MethodEntry := do
  match items with
  | [] => throw (.invalidLength 0 .methodEntry)
  | first :: rest =>
    let name ← string first
    let absent : MethodEntry := { name }
    let (params,rest) ← item absent.params (list string) rest
    let (returns,_) ← item absent.returns string rest
    return { name, params, returns }

def methodEntry : Value → Except MappingError MethodEntry :=
  record .methodEntry methodOfEntries methodOfItems

/-- The fields of a class met so far. -/
structure ClassFields where
  name : Option String := none
  superclass : Option String := none
  constructor : Option (List String) := none
  methods : Option (List MethodEntry) := none

def ClassFields.visit (f : ClassFields) (entry : String × Value) :
    Except MappingError ClassFields := do
  let (key,v) := entry
  match key with
  | "name" => return { f with name := ← once "name" f.name string v }
  | "superclass" | "extends" =>
    return { f with superclass := ← once "superclass" f.superclass string v }
  | "constructor" => return { f with constructor := ← once "constructor" f.constructor (list string) v }
  | "methods" => return { f with methods := ← once "methods" f.methods (list methodEntry) v }
  | _ => throw (.unknownField key .classEntry)

def ClassFields.finish (f : ClassFields) : Except MappingError ClassEntry :=
  match f.name with
  | none => .error (.missingField "name")
  | some name =>
    let absent : ClassEntry := { name }
    .ok { name
          superclass := f.superclass
          constructor := f.constructor.getD absent.constructor
          methods := f.methods.getD absent.methods }

def classOfEntries (entries : List (String × Value)) : Except MappingError ClassEntry := do
  let fields ← entries.foldlM ClassFields.visit {}
  fields.finish

def classOfItems (items : List Value) : Except MappingError ClassEntry := do
  match items with
  | [] => throw (.invalidLength 0 .classEntry)
  | first :: rest =>
    let name ← string first
    let absent : ClassEntry := { name }
    let (superclass,rest) ← item absent.superclass (some <$> string ·) rest
    let (constructor,rest) ← item absent.constructor (list string) rest
    let (methods,_) ← item absent.methods (list methodEntry) rest
    return { name, superclass, constructor, methods }

def classEntry : Value → Except MappingError ClassEntry :=
  record .classEntry classOfEntries classOfItems

/-- The logging settings met so far. -/
structure LoggingFields where
  level : Option String := none
  json : Option Bool := none
  stderr : Option Bool := none
  file : Option String := none

def LoggingFields.visit (f : LoggingFields) (entry : String × Value) :
    Except MappingError LoggingFields := do
  let (key,v) := entry
  match key with
  | "level" => return { f with level := ← once "level" f.level string v }
  | "json" => return { f with json := ← once "json" f.json boolean v }
  | "stderr" => return { f with stderr := ← once "stderr" f.stderr boolean v }
  | "file" => return { f with file := ← once "file" f.file path v }
  | _ => throw (.unknownField key .logging)

def LoggingFields.finish (f : LoggingFields) : LoggingConfig :=
  let absent : LoggingConfig := {}
  { level := f.level.getD absent.level
    json := f.json.getD absent.json
    stderr := f.stderr.getD absent.stderr
    file := f.file }

def loggingOfEntries (entries : List (String × Value)) : Except MappingError LoggingConfig := do
  let fields ← entries.foldlM LoggingFields.visit {}
  return fields.finish

def loggingOfItems (items : List Value) : Except MappingError LoggingConfig := do
  let absent : LoggingConfig := {}
  let (level,rest) ← item absent.level string items
  let (json,rest) ← item absent.json boolean rest
  let (stderr,rest) ← item absent.stderr boolean rest
  let (file,_) ← item absent.file (some <$> path ·) rest
  return { level, json, stderr, file }

def logging : Value → Except MappingError LoggingConfig :=
  record .logging loggingOfEntries loggingOfItems

/-- The parts of a configuration met so far. -/
structure ConfigFields where
  logging : Option LoggingConfig := none
  classes : Option (List ClassEntry) := none

def ConfigFields.visit (f : ConfigFields) (entry : String × Value) :
    Except MappingError ConfigFields := do
  let (key,v) := entry
  match key with
  | "logging" => return { f with logging := ← once "logging" f.logging Mapping.logging v }
  | "classes" => return { f with classes := ← once "classes" f.classes (list classEntry) v }
  | _ => throw (.unknownField key .config)

def ConfigFields.finish (f : ConfigFields) : Config :=
  let absent : Config := {}
  { logging := f.logging.getD absent.logging
    classes := f.classes.getD absent.classes }

end Mapping

/-- The configuration that the entries of a document hold. -/
def ofEntries (entries : List (String × Value)) : Except MappingError Config := do
  let fields ← entries.foldlM Mapping.ConfigFields.visit {}
  return fields.finish

end Nominal.Config
