import Nominal.Config.Error
import Nominal.Toml.Document

/-!
Loading a configuration from TOML text or from a file that holds such text. The whole text is read as
a document before any of it is looked at.
-/

namespace Nominal.Config

/-- What stands at the path of a configuration file. -/
inductive File where
  | missing
  | directory
  | content (bytes : ByteArray)

/-- The configuration that a TOML text holds. -/
def ofText (text : String) : Except LoadError Config :=
  match Toml.parse? text with
  | none => .error .malformed
  | some entries => (ofEntries entries).mapError .mapping

/-- The configuration that a file holds. -/
def ofFile (path : String) : File → Except LoadError Config
  | .missing => .error (.unreadable path .notFound)
  | .directory => .error (.unreadable path .isDirectory)
  | .content bytes =>
    match String.fromUTF8? bytes with
    | some text => ofText text
    | none => .error (.unreadable path .notUtf8)

end Nominal.Config
