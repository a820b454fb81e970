import Nominal.Decimal.Binary64

/-!
The data of a TOML document, and how its statements make up its tables. A table can come about in three
ways, and which statements may still add to it depends on that. Statements that clash have no result.
-/

namespace Nominal.Toml

/-- A value. Tables keep the order of their keys. -/
inductive Value where
  | string (s : String)
  | integer (n : Int)
  | float (x : Decimal.Binary64)
  | boolean (b : Bool)
  /-- A date, a time or both, as written. -/
  | datetime (written : String)
  | array (items : List Value)
  | table (entries : List (String × Value))
  deriving Repr

namespace Value

mutual

/-- Whether two values are the same, keys in the same order. -/
def beq : Value → Value → Bool
  | string s, string t => s == t
  | integer m, integer n => m == n
  | float x, float y => x == y
  | boolean a, boolean b => a == b
  | datetime s, datetime t => s == t
  | array xs, array ys => beqItems xs ys
  | table xs, table ys => beqEntries xs ys
  | _, _ => false

def beqItems : List Value → List Value → Bool
  | [], [] => true
  | x :: xs, y :: ys => x.beq y && beqItems xs ys
  | _, _ => false

def beqEntries : List (String × Value) → List (String × Value) → Bool
  | [], [] => true
  | (key,x) :: xs, (other,y) :: ys => key == other && x.beq y && beqEntries xs ys
  | _, _ => false

end

mutual

theorem beq_iff (a b : Value) : a.beq b = true ↔ a = b := by
  cases a with
  | string s => cases b <;> simp [beq]
  | integer n => cases b <;> simp [beq]
  | float x => cases b <;> simp [beq]
  | boolean a => cases b <;> simp [beq]
  | datetime s => cases b <;> simp [beq]
  | array xs => cases b <;> simp [beq,beqItems_iff xs]
  | table xs => cases b <;> simp [beq,beqEntries_iff xs]

theorem beqItems_iff (xs ys : List Value) : beqItems xs ys = true ↔ xs = ys := by
  cases xs with
  | nil => cases ys <;> simp [beqItems]
  | cons x xs => cases ys <;> simp [beqItems,beq_iff x,beqItems_iff xs]

theorem beqEntries_iff (xs ys : List (String × Value)) : beqEntries xs ys = true ↔ xs = ys := by
  cases xs with
  | nil => cases ys <;> simp [beqEntries]
  | cons first xs =>
    obtain ⟨key,x⟩ := first
    cases ys with
    | nil => simp [beqEntries]
    | cons second ys =>
      obtain ⟨other,y⟩ := second
      simp [beqEntries,beq_iff x,beqEntries_iff xs]

end

instance : DecidableEq Value := fun a b => decidable_of_iff (a.beq b = true) (beq_iff a b)

end Value

/-- How a table came about. -/
inductive Origin where
  /-- As a step on the path of a header. -/
  | implied
  /-- As a step on the path of a dotted key. -/
  | dotted
  /-- By a header of its own, or as the whole document. -/
  | declared
  deriving DecidableEq, Repr

/-- A table under construction holds finished values, tables, and arrays whose elements are tables
    opened by headers. -/
inductive Node where
  | value (v : Value)
  | table (origin : Origin) (entries : List (String × Node))
  | tables (items : List (List (String × Node)))

abbrev Entries := List (String × Node)

namespace Entries

/-- Puts a node in the place of the one under the key. -/
def replace (key : String) (n : Node) (es : Entries) : Entries :=
  es.map fun (k,old) => if k = key then (k,n) else (k,old)

/-- Removes the node under the key. -/
def remove (key : String) (es : Entries) : Entries :=
  es.filter fun (k,_) => k ≠ key

/-- Goes down a path and changes the table at its end. Missing steps become tables of the given
    origin. A dotted key does not enter a declared table, and no path enters a finished value; an array
    of tables is entered at its last element. -/
def within (via : Origin) (visit : Origin → Entries → Option Entries) :
    List String → Origin → Entries → Option Entries
  | [], origin, es => visit origin es
  | key :: path, _, es =>
    match es.lookup key with
    | none => do
      let inner ← within via visit path via []
      return es ++ [(key,.table via inner)]
    | some (.value _) => none
    | some (.table origin inner) =>
      if via = .dotted ∧ origin = .declared then none
      else do
        let inner ← within via visit path origin inner
        return es.replace key (.table origin inner)
    | some (.tables items) => do
      let last ← items.getLast?
      let last ← within via visit path .declared last
      return es.replace key (.tables (items.dropLast ++ [last]))

/-- Adds a value under a new key. Behind a dotted path the table must itself be a dotted one. -/
def assign (path : List String) (key : String) (v : Value) :
    Origin → Entries → Option Entries :=
  within .dotted
    (fun origin es =>
      if (origin == .dotted) == path.isEmpty || (es.lookup key).isSome then none
      else some (es ++ [(key,.value v)]))
    path

/-- Opens the table of a header. It may exist as a step of an earlier header only, and then moves to
    the end. -/
def openTable (path : List String) (key : String) : Origin → Entries → Option Entries :=
  within .implied
    (fun _ es =>
      match es.lookup key with
      | none => some (es ++ [(key,.table .declared [])])
      | some (.table .implied inner) => some (es.remove key ++ [(key,.table .declared inner)])
      | some _ => none)
    path

/-- Adds an empty table to the array of tables of a header. -/
def openElement (path : List String) (key : String) : Origin → Entries → Option Entries :=
  within .implied
    (fun _ es =>
      match es.lookup key with
      | none => some (es ++ [(key,.tables [[]])])
      | some (.tables items) => some (es.replace key (.tables (items ++ [[]])))
      | some _ => none)
    path

end Entries

mutual

/-- The finished value of a node. -/
def Node.finish : Node → Value
  | .value v => v
  | .table _ entries => .table (Node.finishEntries entries)
  | .tables items => .array (Node.finishItems items)

def Node.finishEntries : List (String × Node) → List (String × Value)
  | [] => []
  | (key,n) :: rest => (key,n.finish) :: Node.finishEntries rest

def Node.finishItems : List (List (String × Node)) → List Value
  | [] => []
  | entries :: rest => .table (Node.finishEntries entries) :: Node.finishItems rest

end

/-- A statement of a document. -/
inductive Statement where
  /-- A value for a key of the table opened last, along a dotted path. -/
  | assign (path : List String) (key : String) (v : Value)
  /-- A header that opens a table. -/
  | table (path : List String) (key : String)
  /-- A header that opens the next element of an array of tables. -/
  | element (path : List String) (key : String)

/-- A document under construction: the path of the table opened last, and the whole. -/
structure Draft where
  opened : List String
  root : Entries

namespace Draft

def empty : Draft := ⟨[],[]⟩

/-- Carries out one statement. -/
def add (d : Draft) : Statement → Option Draft
  | .assign path key v => do
    let root ← Entries.within .implied (Entries.assign path key v) d.opened .declared d.root
    return { d with root }
  | .table path key => do
    let root ← Entries.openTable path key .declared d.root
    return ⟨path ++ [key],root⟩
  | .element path key => do
    let root ← Entries.openElement path key .declared d.root
    return ⟨path ++ [key],root⟩

/-- Carries out statements in order. -/
def addAll (d : Draft) (statements : List Statement) : Option Draft :=
  statements.foldlM add d

/-- The entries of the finished document. -/
def finish (d : Draft) : List (String × Value) := Node.finishEntries d.root

end Draft

end Nominal.Toml
