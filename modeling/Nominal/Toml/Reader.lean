/-!
Reading from the front of a text. A reader takes characters off the front or has no result; after a
failed alternative the next one starts from the same place.
-/

namespace Nominal.Toml

/-- Reads a value off the front of a list of characters. -/
abbrev Reader (α : Type) := StateT (List Char) Option α

namespace Reader

/-- One character of a class. -/
def next (ok : Char → Bool) : Reader Char
  | c :: cs => if ok c then some (c,cs) else none
  | [] => none

/-- The given character. -/
def char (c : Char) : Reader Unit
  | d :: cs => if d = c then some ((),cs) else none
  | [] => none

/-- The rest of a text after the given word, if it starts with it. -/
def afterWord : List Char → List Char → Option (List Char)
  | [], cs => some cs
  | w :: ws, c :: cs => if w = c then afterWord ws cs else none
  | _ :: _, [] => none

/-- The given word. -/
def word (w : String) : Reader Unit := fun cs => (afterWord w.toList cs).map ((),·)

/-- The longest run of characters of a class, perhaps none. -/
def run (ok : Char → Bool) : Reader (List Char) := fun cs => some (cs.takeWhile ok,cs.dropWhile ok)

/-- The longest run of characters of a class, at least one. -/
def run1 (ok : Char → Bool) : Reader (List Char) := do
  let c ← next ok
  let cs ← run ok
  return c :: cs

/-- The end of the text. -/
def finished : Reader Unit
  | [] => some ((),[])
  | _ :: _ => none

/-- Whether the given character comes next; if so it is taken. -/
def accept (c : Char) : Reader Bool := do
  let found ← optional (char c)
  return found.isSome

/-- Repeats a reader while it has a result, at most `fuel` times. -/
def repeated {α : Type} (p : Reader α) : (fuel : Nat) → Reader (List α)
  | 0 => fun cs => some ([],cs)
  | fuel + 1 => fun cs =>
    match p cs with
    | none => some ([],cs)
    | some (a,rest) =>
      match repeated p fuel rest with
      | some (as,rest) => some (a :: as,rest)
      | none => some ([a],rest)

/-- Repeats a reader while it has a result. A reader that takes at least one character each time
    cannot go on for longer than the text. -/
def many {α : Type} (p : Reader α) : Reader (List α) := fun cs => repeated p cs.length cs

/-- The characters that a reader takes. -/
def taken {α : Type} (p : Reader α) : Reader (List Char) := fun cs =>
  match p cs with
  | some (_,rest) => some (cs.take (cs.length - rest.length),rest)
  | none => none

end Reader

end Nominal.Toml
