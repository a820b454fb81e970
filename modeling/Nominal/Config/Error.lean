import Nominal.Config.Mapping
import Nominal.Registration

/-!
What can go wrong between a configuration file and a class table, and how it is worded.
-/

namespace Nominal.Config

/-- Why a file could not be read as text. -/
inductive ReadFailure where
  | notFound
  | isDirectory
  | notUtf8
  deriving DecidableEq, Repr

def ReadFailure.message : ReadFailure → String
  | notFound => "No such file or directory (os error 2)"
  | isDirectory => "Is a directory (os error 21)"
  | notUtf8 => "stream did not contain valid UTF-8"

/-- The member of a class in whose signature a type name stands. -/
inductive Context where
  | constructor (owner : String)
  | method (owner : String) (name : String)
  deriving DecidableEq, Repr

def Context.text : Context → String
  | constructor owner => s!"constructor of `{owner}`"
  | method owner name => s!"method `{owner}.{name}`"

/-- The faults of a class table whose entries name their types. -/
inductive BuildError where
  /-- The name is kept as written. -/
  | unknownType (name : String) (context : Context)
  | unknownSuperclass (name : String) (superclass : String)
  /-- The names of all entries that wait for a superclass which never comes, in order. -/
  | superclassCycle (names : List String)
  | registration (e : RegistrationError)
  /-- An entry whose members are due has no class. Registration comes first, so this does not
      arise. -/
  | unregistered (name : String)
  deriving DecidableEq, Repr

def BuildError.message : BuildError → String
  | unknownType name context => s!"unknown type `{name}` in {context.text}"
  | unknownSuperclass name superclass => s!"class `{name}` extends unknown class `{superclass}`"
  | superclassCycle names => "cyclic inheritance involving " ++ ", ".intercalate names
  | registration e => e.message
  | unregistered name => s!"class `{name}` is not registered"

/-- The faults of a configuration file. -/
inductive LoadError where
  | unreadable (path : String) (failure : ReadFailure)
  /-- The text is not a TOML document. -/
  | malformed
  | mapping (e : MappingError)
  deriving Repr

def LoadError.message : LoadError → String
  | unreadable path failure => s!"failed to read config file {path}: {failure.message}"
  | malformed => "failed to parse toml config: invalid document"
  | mapping e => s!"failed to parse toml config: {e.message}"

end Nominal.Config
