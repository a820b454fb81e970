import Nominal.Config.Error
import Nominal.Log.Event
import Nominal.Text.CharClass

/-!
From the entries of a class table to the table itself. The entries are put in an order in which every
class follows its superclass, the classes are registered in that order, and then the members are
added in the order of the entries, so that a signature may name any class of the table.
-/

namespace Nominal.Config

/-- The first entry whose superclass is neither a name of the table nor a built-in class. -/
def unknownSuperclass? (declared : List String) (entries : List ClassEntry) : Option BuildError :=
  entries.findSome? fun entry =>
    entry.superclass.bind fun name =>
      if declared.contains name || (ClassTable.builtin.find? name).isSome then none
      else some (.unknownSuperclass entry.name name)

/-- Whether an entry can be placed: its superclass is absent, placed, or not a name of the table. -/
def isReady (declared placed : List String) (entry : ClassEntry) : Bool :=
  match entry.superclass with
  | none => true
  | some name => placed.contains name || !declared.contains name

/-- One pass over the waiting entries: those that it places, in order, and those that go on waiting.
    An entry placed in the pass counts for the entries after it. -/
def placeReady (declared : List String) :
    (placed : List String) → List ClassEntry → List ClassEntry × List ClassEntry
  | _, [] => ([],[])
  | placed, entry :: rest =>
    if isReady declared placed entry then
      let (ready,waiting) := placeReady declared (entry.name :: placed) rest
      (entry :: ready,waiting)
    else
      let (ready,waiting) := placeReady declared placed rest
      (ready,entry :: waiting)

theorem length_placeReady (declared placed : List String) (entries : List ClassEntry) :
    (placeReady declared placed entries).1.length + (placeReady declared placed entries).2.length =
      entries.length := by
  induction entries generalizing placed with
  | nil => rfl
  | cons entry rest ih =>
    simp only [placeReady]
    split
    · have := ih (entry.name :: placed); simp only [List.length_cons]; omega
    · have := ih placed; simp only [List.length_cons]; omega

/-- Repeats passes until no entry waits; a pass that places nothing shows a cycle. -/
def placeAll (declared placed : List String) (waiting : List ClassEntry) :
    Except BuildError (List ClassEntry) :=
  let pass := placeReady declared placed waiting
  if waiting = [] then .ok []
  else if h : pass.1 = [] then .error (.superclassCycle (pass.2.map (·.name)).mergeSort)
  else do
    let later ← placeAll declared (pass.1.map (·.name) ++ placed) pass.2
    return pass.1 ++ later
termination_by waiting.length
decreasing_by
  have total := length_placeReady declared placed waiting
  have placedSome : 0 < (placeReady declared placed waiting).1.length := List.length_pos_iff.mpr h
  omega

/-- The entries in an order in which every class follows its superclass. Entries that need not wait
    keep their order. -/
def inheritanceOrder (entries : List ClassEntry) : Except BuildError (List ClassEntry) :=
  let declared := entries.map (·.name)
  match unknownSuperclass? declared entries with
  | some e => .error e
  | none => placeAll declared [] entries

/-- Registers the class of an entry. -/
def registerEntry (t : ClassTable) (entry : ClassEntry) : Except BuildError ClassTable :=
  match t.addClass entry.name (entry.superclass.bind t.find?) with
  | .ok (t,_) => .ok t
  | .error e => .error (.registration e)

/-- The type a name in a signature stands for; white space around it does not count. -/
def resolveType (t : ClassTable) (context : Context) (name : String) : Except BuildError Ty :=
  match t.resolve? (Text.trim name) with
  | some type => .ok type
  | none => .error (.unknownType name context)

/-- Adds a method of an entry to its class. -/
def addMethodEntry (owner : String) (c : ClassId) (t : ClassTable) (m : MethodEntry) :
    Except BuildError ClassTable := do
  let context := Context.method owner m.name
  let params ← m.params.mapM (resolveType t context)
  let returns ← resolveType t context m.returns
  match t.addMethod c ⟨m.name,params,returns⟩ with
  | .ok t => .ok t
  | .error e => .error (.registration e)

/-- Adds the constructor and the methods of an entry to the class that was found for it. -/
def addMembersAt (found : Option ClassId) (t : ClassTable) (entry : ClassEntry) :
    Except BuildError ClassTable := do
  match found with
  | none => .error (.unregistered entry.name)
  | some c =>
    let params ← entry.constructor.mapM (resolveType t (.constructor entry.name))
    match t.setConstructor c params with
    | .error e => .error (.registration e)
    | .ok t => entry.methods.foldlM (addMethodEntry entry.name c) t

/-- Adds the constructor and the methods of an entry to the class of its name. -/
def addMembers (t : ClassTable) (entry : ClassEntry) : Except BuildError ClassTable :=
  addMembersAt (t.find? entry.name) t entry

/-- The table of the built-in classes and of the given entries. -/
def buildTable (entries : List ClassEntry) : Except BuildError ClassTable := do
  let ordered ← inheritanceOrder entries
  let t ← ordered.foldlM registerEntry ClassTable.builtin
  entries.foldlM addMembers t

/-- The class table of a configuration. The class of an entry is searched by name when its members are added;
    `buildByRoll` keeps a roll of the classes instead, and builds the same (`build_eq_byRoll`). -/
def build (c : Config) : Except BuildError ClassTable := buildTable c.classes

/-- The events of building the class table: one report of success. -/
def buildEvents (c : Config) : List Log.Event :=
  match c.build with
  | .ok _ => [.tableBuilt c.classes.length]
  | .error _ => []

end Nominal.Config
