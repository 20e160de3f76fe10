/-!
# Shortest decimals

The shortest decimal that reads back as a given binary number.  A number is
`significand * 2 ^ power`; the reals that round to it form an interval, and
the answer is the point of the coarsest decimal grid that meets the interval,
the nearer one when two points do.
-/

namespace AdMonitor.Decimal

/-- The positive number `significand * 2 ^ power`. -/
structure Binary where
  significand : Nat
  power : Int
  /-- The number below is only half as far away as the number above. -/
  narrowBelow : Bool

/-- The positive number `digits * 10 ^ exponent`. -/
structure Digits where
  digits : Nat
  exponent : Int
  deriving Repr, DecidableEq

def isNegative (x : Float) : Bool :=
  x.toBits >>> 63 == 1

/-- The magnitude of a finite number; `none` for zero. -/
def Binary.ofFloat? (x : Float) : Option Binary :=
  let bits : Nat := x.toBits.toNat % Nat.pow 2 63
  let fraction : Nat := bits % Nat.pow 2 52
  let scale : Nat := bits / Nat.pow 2 52
  if scale = 0 then
    if fraction = 0 then none
    else some ⟨fraction, -1074, false⟩
  else
    some ⟨Nat.pow 2 52 + fraction, (scale : Int) - 1075, fraction = 0 && 1 < scale⟩

/-- The interval of reals that round to a number, over one denominator. -/
structure Interval where
  low : Nat
  middle : Nat
  high : Nat
  unit : Nat
  closed : Bool

def Binary.interval (b : Binary) : Interval :=
  let quarter := b.power - 2
  let up := Nat.pow 2 quarter.toNat
  { low := (4 * b.significand - if b.narrowBelow then 1 else 2) * up
    middle := 4 * b.significand * up
    high := (4 * b.significand + 2) * up
    unit := Nat.pow 2 (-quarter).toNat
    closed := b.significand % 2 == 0 }

/-- The point of the grid `10 ^ exponent` that lies in the interval, if any. -/
def Interval.point? (i : Interval) (exponent : Int) : Option Nat :=
  let widen := Nat.pow 10 (-exponent).toNat
  let step := i.unit * Nat.pow 10 exponent.toNat
  let low := i.low * widen
  let middle := i.middle * widen
  let high := i.high * widen
  let below := middle / step
  let above := below + 1
  let hitsBelow := 0 < below &&
    (if i.closed then decide (low ≤ below * step) else decide (low < below * step))
  let hitsAbove :=
    if i.closed then decide (above * step ≤ high) else decide (above * step < high)
  if hitsBelow && hitsAbove then
    some (if 2 * middle < (below + above) * step then below else above)
  else if hitsBelow then some below
  else if hitsAbove then some above
  else none

def Interval.search (i : Interval) : (fuel : Nat) → (exponent : Int) → Digits
  | 0, exponent =>
      ⟨i.middle * Nat.pow 10 (-exponent).toNat / (i.unit * Nat.pow 10 exponent.toNat), exponent⟩
  | fuel + 1, exponent =>
      match i.point? exponent with
      | some digits => ⟨digits, exponent⟩
      | none => i.search fuel (exponent - 1)

/-- A power of ten above the number, at most a few powers too large. -/
def Binary.startExponent (b : Binary) : Int :=
  (((Nat.log2 b.significand + 1 : Nat) : Int) + b.power) * 30103 / 100000 + 2

/-- The shortest decimal that reads back as the magnitude of `x`. -/
def shortest? (x : Float) : Option Digits :=
  (Binary.ofFloat? x).map fun b => b.interval.search 24 b.startExponent

end AdMonitor.Decimal
