import ChatFlow.Decimal.Binary

/-!
# The shortest decimal that reads back

Every decimal between the two midpoints around a binary number rounds to that number (the
midpoints themselves when the significand is even).  `shortest` returns the decimal with the fewest digits
in that interval, and the nearest one where there are two.  It looks at coarser decimal grids
first and tests the two neighbours of the value on each grid, in exact natural arithmetic.
-/

namespace ChatFlow
namespace Decimal

/-- The value `significand * 2 ^ exponent` and the two midpoints around it, all three over one
common denominator. -/
structure Bounds where
  /-- Whether a midpoint itself rounds to the value. -/
  closed : Bool
  /-- The lower midpoint. -/
  lower : Nat
  /-- The value. -/
  value : Nat
  /-- The upper midpoint. -/
  upper : Nat
  /-- The common denominator. -/
  denominator : Nat

namespace Bounds

/-- The bounds of a positive finite number.  The gap below a power of two is half as wide, unless
the number is the smallest of the normal ones. -/
def ofParts (format : BinaryFormat) (significand : Nat) (exponent : Int) : Bounds :=
  let scale := if exponent ≥ 2 then 1 <<< (exponent - 2).toNat else 1
  let denominator := if exponent ≥ 2 then 1 else 1 <<< (2 - exponent).toNat
  let narrow := significand = 1 <<< (format.precision - 1) ∧ exponent > -(format.lowest : Int)
  { closed := significand % 2 == 0
    lower := (4 * significand - if narrow then 1 else 2) * scale
    value := 4 * significand * scale
    upper := (4 * significand + 2) * scale
    denominator }

/-- Whether `numerator / denominator` rounds to the value. -/
def holds (bounds : Bounds) (numerator denominator : Nat) : Bool :=
  let candidate := numerator * bounds.denominator
  let low := bounds.lower * denominator
  let high := bounds.upper * denominator
  if bounds.closed then low ≤ candidate && candidate ≤ high
  else low < candidate && candidate < high

end Bounds

/-- The point of the grid of multiples of `10 ^ place` nearest to the value, if one of the two
neighbours of the value on that grid rounds to it. -/
def gridPoint? (bounds : Bounds) (place : Int) : Option Nat :=
  let unit := if place ≥ 0 then Nat.pow 10 place.toNat else 1
  let parts := if place ≥ 0 then 1 else Nat.pow 10 (-place).toNat
  let numerator := bounds.value * parts
  let step := bounds.denominator * unit
  let below := numerator / step
  let above := below + 1
  let lowHit := below != 0 && bounds.holds (below * unit) parts
  let highHit := bounds.holds (above * unit) parts
  let twice := 2 * (numerator % step)
  match lowHit, highHit with
  | true, true =>
    some (if twice < step || (twice == step && below % 2 == 0) then below else above)
  | true, false => some below
  | false, true => some above
  | false, false => none

/-- Looks for a hit on grids of decreasing step. -/
def searchGrids (bounds : Bounds) : Nat → Int → Nat × Int
  | 0, place => (0, place)
  | fuel + 1, place =>
    match gridPoint? bounds place with
    | some digits => (digits, place)
    | none => searchGrids bounds fuel (place - 1)

/-- Removes the zeros at the end of a number, counting them into the exponent. -/
def dropZeros : Nat → Nat × Int → Nat × Int
  | 0, number => number
  | fuel + 1, (digits, exponent) =>
    if digits ≠ 0 ∧ digits % 10 = 0 then dropZeros fuel (digits / 10, exponent + 1)
    else (digits, exponent)

/-- The digits and the exponent of the shortest decimal that rounds to the positive number
`significand * 2 ^ exponent` of a format: its value is `digits * 10 ^ exponent`. -/
def shortestOf (format : BinaryFormat) (significand : Nat) (exponent : Int) : Nat × Int :=
  let bounds := Bounds.ofParts format significand exponent
  let top : Int := (Nat.log2 significand : Int) + exponent
  dropZeros 20 (searchGrids bounds 25 (top * 30103 / 100000 + 1))

/-- The digits and the exponent of the shortest decimal that rounds to a positive finite double. -/
def shortest (number : Double) : Nat × Int :=
  shortestOf binary64 number.parts.1 number.parts.2

/-- The digits and the exponent of the shortest decimal that rounds to a positive finite single. -/
def shortestSingle (number : Single) : Nat × Int :=
  shortestOf binary32 number.parts.1 number.parts.2

end Decimal
end ChatFlow
