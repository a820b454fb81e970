/-!
The configuration: logging settings and the entries of a class table, with types by name.
-/

namespace Nominal

/-- Logging settings. -/
structure LoggingConfig where
  /-- A level, or a list of filter directives. -/
  level : String := "info"
  /-- Write events as JSON instead of text. -/
  json : Bool := false
  stderr : Bool := true
  /-- A file to which events are appended. -/
  file : Option String := none
  deriving DecidableEq, Repr

/-- A method of an entry, with its types by name. -/
structure MethodEntry where
  name : String
  params : List String := []
  returns : String := "void"
  deriving DecidableEq, Repr

/-- One class of the table. Without a superclass it extends the root class. -/
structure ClassEntry where
  name : String
  superclass : Option String := none
  constructor : List String := []
  methods : List MethodEntry := []
  deriving DecidableEq, Repr

/-- A configuration. The order of the classes need not be that of inheritance. -/
structure Config where
  logging : LoggingConfig := {}
  classes : List ClassEntry := []
  deriving DecidableEq, Repr

end Nominal
