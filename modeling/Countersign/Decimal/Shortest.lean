import Countersign.Decimal.Binary64

/-!
The fewest decimal digits that read back as a given binary number, and their layout as text.
All comparisons are between integers.
-/

namespace Countersign.Decimal

attribute [local instance (high)] instPowNat

def decimalOrder (num den : Nat) : Int :=
  if den ≤ num then ((Nat.toDigits 10 (num / den)).length : Int) - 1
  else
    let places := (Nat.toDigits 10 (den / num)).length
    if 10 ^ (places - 1) * num = den then 1 - (places : Int) else -(places : Int)

/-- A decimal grid of step `10 ^ power` over the quarter units of a binary number:
`k * step` is compared with `x * unit`. -/
structure Grid where
  step : Nat
  unit : Nat

def Grid.of (power binary : Int) : Grid where
  step := 10 ^ power.toNat * 2 ^ (2 - binary).toNat
  unit := 2 ^ (binary - 2).toNat * 10 ^ (-power).toNat

namespace Binary64

/-- Quarter units below the value that still round to it; the gap halves under a power of two. -/
def gapBelow (x : Binary64) : Nat :=
  if x.mantissa = 2 ^ (52 : Nat) ∧ leastExponent < x.exponent then 1 else 2

def covers (x : Binary64) (g : Grid) (k : Nat) : Bool :=
  let low := (4 * x.mantissa - x.gapBelow) * g.unit
  let high := (4 * x.mantissa + 2) * g.unit
  let at_k := k * g.step
  (low < at_k && at_k < high) || (x.mantissa % 2 == 0 && (at_k == low || at_k == high))

/-- The grid point nearest to `x` among its two neighbours that round to `x`. -/
def onGrid? (x : Binary64) (g : Grid) : Option Nat :=
  let value := 4 * x.mantissa * g.unit
  let k := value / g.step
  match x.covers g k, x.covers g (k + 1) with
  | false, false => none
  | true, false => some k
  | false, true => some (k + 1)
  | true, true =>
    let below := value - k * g.step
    let above := (k + 1) * g.step - value
    some (if below < above then k else if above < below then k + 1 else k + k % 2)

/-- Digits and power of ten of the shortest decimal that reads back as the magnitude of `x`. -/
def shortest (x : Binary64) : Nat × Int :=
  let order := decimalOrder (4 * x.mantissa * 2 ^ (x.exponent - 2).toNat)
    (2 ^ (2 - x.exponent).toNat)
  let attempt (i : Nat) : Option (Nat × Int) :=
    let power := order - i
    (x.onGrid? (.of power x.exponent)).map (·, power)
  ((List.range 17).findSome? attempt).getD (x.mantissa, 0)

end Binary64

structure Layout where
  least : Int
  greatest : Int

/-- Digits without the zeros at their end, and the order of the first one. -/
def significant (digits : Nat) (power : Int) : List Char × Int :=
  let all := Nat.toDigits 10 digits
  ((all.reverse.dropWhile (· == '0')).reverse, (all.length : Int) - 1 + power)

def Layout.positional (ds : List Char) (order : Int) : List Char :=
  if order < 0 then ['0', '.'] ++ List.replicate (-order - 1).toNat '0' ++ ds
  else
    let whole := order.toNat + 1
    let fraction := ds.drop whole
    ds.take whole ++ List.replicate (whole - ds.length) '0' ++ '.' ::
      (if fraction.isEmpty then ['0'] else fraction)

def Layout.scientific (ds : List Char) (order : Int) : List Char :=
  let point := if ds.length ≤ 1 then [] else '.' :: ds.drop 1
  ds.take 1 ++ point ++ 'e' :: (if order < 0 then '-' else '+') :: Nat.toDigits 10 order.natAbs

def Layout.write (l : Layout) (x : Binary64) : List Char :=
  let (ds, order) :=
    if x.mantissa = 0 then (['0'], 0) else
      let (digits, power) := x.shortest
      significant digits power
  let body :=
    if l.least ≤ order ∧ order ≤ l.greatest then Layout.positional ds order
    else Layout.scientific ds order
  if x.negative then '-' :: body else body

end Countersign.Decimal
