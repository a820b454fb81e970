import Nominal.Config.Build
import Nominal.Config.Load

/-!
A sample class table, and tables for examples made straight from TOML text. For these a fault is a
mistake in the example, so it is given as a text.
-/

namespace Nominal.Sample

/-- A table of animals, food and points. Puppies and points have constructors with parameters. -/
def zooText : String :=
"
[[classes]]
name = \"Animal\"
methods = [
    \x7b name = \"speak\", returns = \"String\" \x7d,
    \x7b name = \"feed\", params = [\"Food\"], returns = \"boolean\" \x7d,
    \x7b name = \"rename\", params = [\"String\", \"int\"] \x7d,
]

[[classes]]
name = \"Dog\"
superclass = \"Animal\"
methods = [\x7b name = \"fetch\", params = [\"Animal\"], returns = \"Dog\" \x7d]

[[classes]]
name = \"Puppy\"
superclass = \"Dog\"
constructor = [\"String\"]

[[classes]]
name = \"Food\"

[[classes]]
name = \"Foo\"
methods = [\x7b name = \"bar\", params = [\"int\", \"int\"], returns = \"int\" \x7d]

[[classes]]
name = \"Point\"
constructor = [\"int\", \"int\"]
methods = [
    \x7b name = \"x\", returns = \"int\" \x7d,
    \x7b name = \"translate\", params = [\"Point\"], returns = \"Point\" \x7d,
]
"

/-- The class table of a TOML text. -/
def table (text : String) : Except String ClassTable :=
  match Config.ofText text with
  | .error e => .error s!"invalid class table fixture: {e.message}"
  | .ok config =>
    match config.build with
    | .error e => .error s!"invalid class table fixture: {e.message}"
    | .ok t => .ok t

/-- The type of the given name. -/
def type (t : ClassTable) (name : String) : Except String Ty :=
  match t.resolve? name with
  | some type => .ok type
  | none => .error s!"fixture has no type named `{name}`"

def int : Ty := .primitive .int

def boolean : Ty := .primitive .boolean

end Nominal.Sample
