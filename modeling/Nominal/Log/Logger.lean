import Nominal.Log.Filter
import Nominal.Log.Line

/-!
Loggers: where the events that pass the filter are written, and in which form.
-/

namespace Nominal.Log

/-- A logger that has been set up. -/
structure Logger where
  filter : Filter
  json : Bool
  stderr : Bool
  /-- The path of the open log file. -/
  file : Option String

namespace Logger

/-- Sets up a logger, given the directives of the environment and which files can be opened. A log
    file that cannot be opened is left out, which is itself an event. -/
def start (settings : LoggingConfig) (environment : Option String) (opens : String → Bool) :
    Logger × List Event :=
  let logger : Logger :=
    { filter := settings.filter environment
      json := settings.json
      stderr := settings.stderr
      file := settings.file.filter opens }
  match settings.file with
  | some path => (logger,if opens path then [] else [.logFileUnavailable path])
  | none => (logger,[])

/-- Sets up a logger unless there is one already. -/
def install (current : Option Logger) (settings : LoggingConfig) (environment : Option String)
    (opens : String → Bool) : Logger × List Event :=
  match current with
  | some logger => (logger,[])
  | none => start settings environment opens

/-- The lines that the logger writes for some events. -/
def lines (l : Logger) (events : List Event) : List Line :=
  (events.filter l.filter.passes).map fun e => if l.json then .json e.toJson else .text e.toText

end Logger

end Nominal.Log
