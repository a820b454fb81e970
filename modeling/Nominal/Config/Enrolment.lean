import Nominal.Config.Build

/-!
Building a class table with a roll. Registration enters each class on the roll under the name of its entry,
and the members of an entry go to the class that the roll has for it; the table is not searched. An entry
that is not on the roll ends the build.
-/

namespace Nominal.Config

/-- A table in which entries are being registered, and their classes by name. -/
structure Enrolment where
  table : ClassTable
  /-- Of several classes under one name the first counts. -/
  roll : List (String × ClassId)
  deriving DecidableEq, Repr

namespace Enrolment

/-- Nothing is registered yet. The built-in classes are not on the roll. -/
def start : Enrolment := ⟨.builtin,[]⟩

/-- Registers the class of an entry and enters it on the roll. -/
def enrol (e : Enrolment) (entry : ClassEntry) : Except BuildError Enrolment :=
  match e.table.addClass entry.name (entry.superclass.bind e.table.find?) with
  | .ok (t,c) => .ok ⟨t,(entry.name,c) :: e.roll⟩
  | .error refused => .error (.registration refused)

/-- Registers all entries, in an order of inheritance. -/
def ofEntries (entries : List ClassEntry) : Except BuildError Enrolment := do
  let ordered ← inheritanceOrder entries
  ordered.foldlM enrol start

/-- Adds the members of an entry to the class on the roll. -/
def furnish (roll : List (String × ClassId)) (t : ClassTable) (entry : ClassEntry) :
    Except BuildError ClassTable :=
  addMembersAt (roll.lookup entry.name) t entry

end Enrolment

/-- The class table of a configuration, built with a roll. -/
def buildByRoll (c : Config) : Except BuildError ClassTable := do
  let e ← Enrolment.ofEntries c.classes
  c.classes.foldlM (Enrolment.furnish e.roll) e.table

end Nominal.Config
