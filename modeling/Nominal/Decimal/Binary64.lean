/-!
Binary floating-point numbers with 53 bits of precision, in exact integer arithmetic: the number
nearest to a decimal, and the shortest decimal that reads back as a number.
-/

namespace Nominal.Decimal

/-- A floating-point number. A finite one is `± mantissa * 2 ^ exponent`, where the mantissa is below
    `2 ^ 53` and at least `2 ^ 52` unless the exponent is the least one, `-1074`. -/
inductive Binary64 where
  | finite (negative : Bool) (mantissa : Nat) (exponent : Int)
  | infinite (negative : Bool)
  | nan
  deriving DecidableEq, Repr

/-- The quotient rounded to the nearest integer, a half to the even neighbour. -/
def roundHalfEven (num den : Nat) : Nat :=
  let q := num / den
  let twice := 2 * (num % den)
  if twice < den then q
  else if den < twice then q + 1
  else if q % 2 = 0 then q else q + 1

/-- `num / den` in units of `base ^ e`, as a fraction of natural numbers. -/
def inUnits (base : Nat) (num den : Nat) (e : Int) : Nat × Nat :=
  (num * base.pow (-e).toNat,den * base.pow e.toNat)

namespace Binary64

/-- The exponent of the last mantissa bit of `num / den`, both positive. -/
def lastBit (num den : Nat) : Int :=
  let estimate : Int := (num.log2 : Int) - den.log2
  let (n,d) := inUnits 2 num den estimate
  let leading := if n < d then estimate - 1 else estimate
  max (leading - 52) (-1074)

/-- The number nearest to `num / den`, a half to the even mantissa; too large a quotient is
    infinite. -/
def ofRatio (negative : Bool) (num den : Nat) : Binary64 :=
  if num = 0 then finite negative 0 (-1074)
  else
    let q := lastBit num den
    let (n,d) := inUnits 2 num den q
    let r := roundHalfEven n d
    let (m,e) := if r = Nat.pow 2 53 then (Nat.pow 2 52,q + 1) else (r,q)
    if e > 971 then infinite negative else finite negative m e

/-- How many decimal digits a number has. -/
def digitCount (m : Nat) : Nat := (Nat.toDigits 10 m).length

/-- The number nearest to `mantissa * 10 ^ exponent`. Magnitudes far outside the range are decided by
    the number of digits alone. -/
def ofDecimal (negative : Bool) (mantissa : Nat) (exponent : Int) : Binary64 :=
  let magnitude := (digitCount mantissa : Int) + exponent
  if mantissa = 0 ∨ magnitude < -330 then finite negative 0 (-1074)
  else if magnitude > 310 then infinite negative
  else ofRatio negative (mantissa * Nat.pow 10 exponent.toNat) (Nat.pow 10 (-exponent).toNat)

/-- The point nearest to a positive number `m * 2 ^ e` on the grid of multiples of `10 ^ place`, if
    it reads back as the number. Of two equally near points the larger is taken. -/
def onGrid? (m : Nat) (e : Int) (place : Int) : Option Nat :=
  -- A quarter of the last bit is the unit, so that the ends of the interval are whole.
  let point := fun (quarters : Nat) =>
    inUnits 10 (quarters * Nat.pow 2 (e - 2).toNat) (Nat.pow 2 (2 - e).toNat) place
  let below := if m = Nat.pow 2 52 ∧ e > -1074 then 1 else 2
  let (lo,den) := point (4 * m - below)
  let (value,_) := point (4 * m)
  let (hi,_) := point (4 * m + 2)
  let fits := fun (d : Nat) =>
    if m % 2 = 0 then lo ≤ d * den && d * den ≤ hi else lo < d * den && d * den < hi
  let floor := value / den
  let candidate := if 2 * (value % den) < den then floor else floor + 1
  let other := if candidate = floor then floor + 1 else floor
  if candidate ≠ 0 ∧ fits candidate then some candidate
  else if other ≠ 0 ∧ fits other then some other
  else none

/-- The coarsest grid, from the given place downwards, that has a point reading back as the number,
    and that point. -/
def coarsest (m : Nat) (e : Int) : (steps : Nat) → (place : Int) → Nat × Int
  | 0, place => (0,place)
  | steps + 1, place =>
    match onGrid? m e place with
    | some d => (d,place)
    | none => coarsest m e steps (place - 1)

/-- A number `digits * 10 ^ place` in positional notation, with at least one digit on both sides of
    the point. -/
def positional (digits : Nat) (place : Int) : String :=
  let text := Nat.toDigits 10 digits
  let zeros := List.replicate place.toNat '0'
  let fraction := (-place).toNat
  let padded := List.replicate (fraction + 1 - text.length) '0' ++ text ++ zeros
  let whole := padded.take (padded.length - fraction)
  let part := padded.drop (padded.length - fraction)
  String.ofList (whole ++ ['.'] ++ if part.isEmpty then ['0'] else part)

/-- The text of a number: the fewest digits that read back as it, never with an exponent. -/
def text : Binary64 → String
  | nan => "NaN"
  | infinite negative => if negative then "-inf" else "inf"
  | finite negative m e =>
    let magnitude :=
      if m = 0 then "0.0"
      else
        let (digits,place) := coarsest m e 650 310
        positional digits place
    if negative then "-" ++ magnitude else magnitude

end Binary64

end Nominal.Decimal
