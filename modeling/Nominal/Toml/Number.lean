import Nominal.Toml.Reader
import Nominal.Toml.Table

/-!
Numbers, dates and times as TOML writes them. Integers have 64 bits with sign. A float that is too
large is refused, unless it is negative.
-/

namespace Nominal.Toml

open Reader
open Decimal (Binary64)

namespace Number

/-- The value of a hexadecimal digit, of either case. -/
def digitValue (c : Char) : Nat :=
  if c.isDigit then c.toNat - '0'.toNat
  else if c.isLower then c.toNat - 'a'.toNat + 10
  else c.toNat - 'A'.toNat + 10

/-- The number that digits stand for. -/
def ofDigits (base : Nat) (digits : List Char) : Nat :=
  digits.foldl (fun n c => base * n + digitValue c) 0

def isHexDigit (c : Char) : Bool :=
  c.isDigit || ('a' ≤ c && c ≤ 'f') || ('A' ≤ c && c ≤ 'F')

def isOctalDigit (c : Char) : Bool := '0' ≤ c && c ≤ '7'

def isBinaryDigit (c : Char) : Bool := c = '0' || c = '1'

/-- Further digits; a single underscore may stand before each. -/
def moreDigits (ok : Char → Bool) : List Char → List Char × List Char
  | '_' :: c :: rest =>
    if ok c then
      let (digits,after) := moreDigits ok rest
      (c :: digits,after)
    else ([],'_' :: c :: rest)
  | c :: rest =>
    if ok c then
      let (digits,after) := moreDigits ok rest
      (c :: digits,after)
    else ([],c :: rest)
  | [] => ([],[])

/-- At least one digit; underscores between digits are dropped. -/
def digits (ok : Char → Bool) : Reader (List Char) := do
  let first ← next ok
  let rest : List Char ← fun cs => some (moreDigits ok cs)
  return first :: rest

/-- Decimal digits without a leading zero. -/
def wholeDigits : Reader (List Char)
  | '0' :: rest => some (['0'],rest)
  | cs => digits Char.isDigit cs

/-- An optional sign; true for a minus. -/
def sign : Reader Bool := do
  if ← accept '-' then return true
  let _ ← accept '+'
  return false

/-- An integer that fits into 64 bits with sign. -/
def bounded (n : Int) : Reader Int :=
  if -(Int.pow 2 63) ≤ n ∧ n < Int.pow 2 63 then pure n else failure

/-- A decimal integer, or digits of another base behind its mark. -/
def integer : Reader Int :=
  (do word "0x"; bounded (ofDigits 16 (← digits isHexDigit))) <|>
  (do word "0o"; bounded (ofDigits 8 (← digits isOctalDigit))) <|>
  (do word "0b"; bounded (ofDigits 2 (← digits isBinaryDigit))) <|>
  (do
    let negative ← sign
    let magnitude := ofDigits 10 (← wholeDigits)
    bounded (if negative then -magnitude else magnitude))

/-- The exponent behind its mark. -/
def exponent : Reader Int := do
  let _ ← next fun c => c = 'e' || c = 'E'
  let negative ← sign
  let magnitude := ofDigits 10 (← digits Char.isDigit)
  return if negative then -magnitude else magnitude

/-- The digits behind the point. -/
def fraction : Reader (List Char) := do
  char '.'
  digits Char.isDigit

/-- A decimal with a fraction, an exponent or both. -/
def decimal : Reader Binary64 := do
  let negative ← sign
  let whole ← wholeDigits
  let part ← optional fraction
  let shift ← if part.isSome then optional exponent else some <$> exponent
  let part := part.getD []
  let x := Binary64.ofDecimal negative (ofDigits 10 (whole ++ part)) (shift.getD 0 - part.length)
  if x = .infinite false then failure
  return x

/-- Infinity or not-a-number by name. -/
def special : Reader Binary64 := do
  let negative ← sign
  (do word "inf"; return .infinite negative) <|> (do word "nan"; return .nan)

def float : Reader Binary64 := decimal <|> special

end Number

namespace Datetime

/-- Exactly so many decimal digits, as a number. -/
def fixed : (count : Nat) → (value : Nat) → Reader Nat
  | 0, value => pure value
  | count + 1, value => do
    let c ← next Char.isDigit
    fixed count (10 * value + Number.digitValue c)

/-- Two digits whose number lies between bounds. -/
def part (least most : Nat) : Reader Nat := do
  let n ← fixed 2 0
  if least ≤ n ∧ n ≤ most then return n else failure

def isLeap (year : Nat) : Bool := year % 4 = 0 && (year % 100 ≠ 0 || year % 400 = 0)

def daysIn (year month : Nat) : Nat :=
  if month = 2 then if isLeap year then 29 else 28
  else if month = 4 ∨ month = 6 ∨ month = 9 ∨ month = 11 then 30
  else 31

def date : Reader Unit := do
  let year ← fixed 4 0
  char '-'
  let month ← part 1 12
  char '-'
  let _ ← part 1 (daysIn year month)

/-- Hours, minutes and seconds, with an optional fraction of a second. -/
def time : Reader Unit := do
  let _ ← part 0 23
  char ':'
  let _ ← part 0 59
  char ':'
  let _ ← part 0 60
  let _ ← optional (do char '.'; run1 Char.isDigit)

/-- The distance from universal time. -/
def offset : Reader Unit :=
  (do let _ ← next fun c => c = 'Z' || c = 'z') <|>
  (do
    let _ ← next fun c => c = '+' || c = '-'
    let _ ← part 0 23
    char ':'
    let _ ← part 0 59)

/-- A date, a date with a time and perhaps an offset, or a time. -/
def datetime : Reader Unit :=
  (do
    date
    let _ ← optional do
      let _ ← next fun c => c = 'T' || c = 't' || c = ' '
      time
      let _ ← optional offset) <|>
  time

end Datetime

/-- A date or time, a float or an integer. -/
def numeral : Reader Value :=
  (do return .datetime (String.ofList (← taken Datetime.datetime))) <|>
  (do return .float (← Number.float)) <|>
  (do return .integer (← Number.integer))

end Nominal.Toml
