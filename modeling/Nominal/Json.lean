import Nominal.Decimal.Binary64

/-!
JSON values, and the reading of records from them. An object keeps its members in the order given; no
operation here depends on it.
-/

namespace Nominal

inductive Json where
  | null
  | boolean (b : Bool)
  | integer (n : Int)
  | real (x : Decimal.Binary64)
  | string (s : String)
  | array (items : List Json)
  | object (members : List (String × Json))
  deriving Repr, Inhabited

namespace Json

/-- An array of strings. -/
def strings (items : List String) : Json := .array (items.map .string)

/-- A string, or null for none. -/
def ofString? : Option String → Json
  | some s => .string s
  | none => .null

def string? : Json → Option String
  | string s => some s
  | _ => none

def boolean? : Json → Option Bool
  | boolean b => some b
  | _ => none

/-- A string or null. -/
def nullableString? : Json → Option (Option String)
  | null => some none
  | string s => some (some s)
  | _ => none

def list? {α : Type} (item : Json → Option α) : Json → Option (List α)
  | array items => items.mapM item
  | _ => none

/-- The fields of a record in their fixed order, absent ones as `none`. The record is an object with
    no other keys than those of its fields, each of which has one or more spellings but is given at most
    once; or it is an array with no more items than there are fields. -/
def fields? (spellings : List (List String)) : Json → Option (List (Option Json))
  | object members =>
    if members.all fun (key,_) => spellings.any (·.contains key) then
      spellings.mapM fun names =>
        match members.filter fun (key,_) => names.contains key with
        | [] => some none
        | [(_,v)] => some (some v)
        | _ => none
    else none
  | array items =>
    if items.length ≤ spellings.length then
      some (items.map some ++ List.replicate (spellings.length - items.length) none)
    else none
  | _ => none

/-- A field with a default. -/
def fieldD {α : Type} (default : α) (read : Json → Option α) : Option Json → Option α
  | none => some default
  | some v => read v

end Json

end Nominal
