import Nominal.Config
import Nominal.Log.Event
import Nominal.Text.CharClass

/-!
Log filters. A filter is a list of directives, each of which sets the most verbose level that passes
for targets with a given beginning, or for all targets. The directive with the longest beginning
decides. The effective filter joins the configured directives with those of the environment.
-/

namespace Nominal.Log

/-- The most verbose level that passes. -/
inductive Threshold where
  | off
  | upTo (level : Level)
  deriving DecidableEq, Repr

namespace Threshold

def verbosity : Threshold → Nat
  | off => 0
  | upTo level => level.verbosity

def label : Threshold → String
  | off => "off"
  | upTo level => level.label.toLower

def ofVerbosity? : Nat → Option Threshold
  | 0 => some off
  | n => (Level.all.find? (·.verbosity == n)).map upTo

/-- A number in decimal digits; a plus may stand before it. -/
def number? (text : List Char) : Option Nat :=
  let digits := match text with
    | '+' :: rest => rest
    | _ => text
  if digits.isEmpty || !digits.all Char.isDigit then none
  else some (digits.foldl (fun n c => 10 * n + (c.toNat - '0'.toNat)) 0)

/-- A threshold by its number, zero to five, or by its name in any case. -/
def ofText? (text : List Char) : Option Threshold :=
  match number? text with
  | some n => ofVerbosity? n
  | none =>
    let name := String.ofList (text.map Char.toLower)
    (off :: Level.all.map upTo).find? (·.label == name)

/-- Whether events of a level pass. -/
def passes (t : Threshold) (level : Level) : Bool := level.verbosity ≤ t.verbosity

end Threshold

/-- What passes for the targets that start with the given text; without a text, for all targets. -/
structure Directive where
  target : Option String
  threshold : Threshold
  deriving DecidableEq, Repr

namespace Directive

/-- Characters with which a directive may start. -/
def mayStart (c : Char) : Bool := c = '-' || c = ':' || c = '_' || Text.isAlphanumeric c

/-- Reads a directive: a target, an equals sign and a threshold, or one of the two alone. A target
    alone, or with nothing behind the sign, lets everything pass. White space in front is part of a target that
    stands alone; with an equals sign it is refused. -/
def parse? (text : List Char) : Option Directive :=
  let target := some (String.ofList (text.takeWhile (· ≠ '=')))
  if !(text.dropWhile Text.isBlank).head?.any mayStart then none
  else
    match text.dropWhile (· ≠ '=') with
    | [] =>
      match Threshold.ofText? text with
      | some threshold => some ⟨none,threshold⟩
      | none => some ⟨target,.upTo .trace⟩
    | _ :: after =>
      if text.head?.any Text.isBlank then none
      else if after.isEmpty then some ⟨target,.upTo .trace⟩
      else (Threshold.ofText? after).map (⟨target,·⟩)

/-- Whether the directive speaks of a target. -/
def covers (d : Directive) (target : String) : Bool :=
  match d.target with
  | none => true
  | some start => start.toList.isPrefixOf target.toList

/-- Whether a directive is asked before another: longer texts, counted in bytes, come first, texts of
    one length in descending order, and a directive for all targets last. -/
def precedes (a b : Directive) : Bool :=
  match a.target, b.target with
  | none, _ => false
  | some _, none => true
  | some s, some t => t.utf8ByteSize < s.utf8ByteSize || (s.utf8ByteSize == t.utf8ByteSize && t < s)

def text (d : Directive) : String :=
  match d.target with
  | none => d.threshold.label
  | some target => s!"{target}={d.threshold.label}"

end Directive

/-- The directives in the order in which they are asked, at most one for each target, and the most
    verbose threshold that was ever set. -/
structure Filter where
  directives : List Directive
  maximum : Threshold
  deriving DecidableEq, Repr

namespace Filter

def empty : Filter := ⟨[],.off⟩

/-- Puts a directive in its place among others. -/
def place (d : Directive) : List Directive → List Directive
  | [] => [d]
  | other :: rest => if d.precedes other then d :: other :: rest else other :: place d rest

/-- Adds a directive, in the place of an earlier one for the same target. -/
def add (f : Filter) (d : Directive) : Filter :=
  { directives := place d (f.directives.filter (·.target ≠ d.target))
    maximum := if f.maximum.verbosity < d.threshold.verbosity then d.threshold else f.maximum }

/-- The filter of some directives; of two for one target the later counts. -/
def ofDirectives (ds : List Directive) : Filter := ds.foldl add empty

/-- The parts of a text between commas. -/
def parts : List Char → List (List Char)
  | [] => [[]]
  | c :: rest =>
    if c = ',' then [] :: parts rest
    else
      match parts rest with
      | [] => [[c]]
      | first :: more => (c :: first) :: more

/-- The directives of a text, between commas. Empty parts are skipped; one bad part spoils all. -/
def directives? (text : String) : Option (List Directive) :=
  ((parts text.toList).filter (!·.isEmpty)).mapM Directive.parse?

def parse? (text : String) : Option Filter := (directives? text).map ofDirectives

/-- Whether events of a level and a target pass: the first directive that covers the target
    decides. -/
def enabled (f : Filter) (target : String) (level : Level) : Bool :=
  match f.directives.find? (·.covers target) with
  | some d => d.threshold.passes level
  | none => false

/-- Whether an event passes. -/
def passes (f : Filter) (e : Event) : Bool := f.enabled e.target e.level

def text (f : Filter) : String := ",".intercalate (f.directives.map (·.text))

end Filter

end Nominal.Log

namespace Nominal.LoggingConfig

open Log (Filter Directive)

/-- The configured level as directives: a level by name in any case, `info` for nothing, and
    otherwise the text as it stands. -/
def directives (l : LoggingConfig) : String :=
  let level := Text.trim l.level
  if level.isEmpty then "info"
  else
    let name := level.toLower
    if ["trace","debug","info","warn","error"].contains name then name
    else if name == "warning" then "warn"
    else level

/-- The filter of the configured level alone; `info` for all targets if it cannot be read. -/
def ownFilter (l : LoggingConfig) : Filter :=
  (Filter.parse? l.directives).getD (Filter.empty.add ⟨none,.upTo .info⟩)

/-- The effective filter, given the directives of the environment. They are added to the configured
    ones; if that cannot be read they stand alone, and if they cannot be read they do not count. -/
def filter (l : LoggingConfig) (environment : Option String) : Filter :=
  let added := Text.trim (environment.getD "")
  if added.isEmpty then l.ownFilter
  else
    match Filter.parse? (l.directives ++ "," ++ added) with
    | some f => f
    | none => (Filter.parse? added).getD l.ownFilter

end Nominal.LoggingConfig
