/-!
# Reading decimals

The binary number nearest to a decimal.
-/

namespace AdMonitor.Decimal

/--
The number nearest to `digits * 10 ^ exponent`, or `none` when it is too large
to be finite.  Magnitudes far outside the range of finite numbers are settled
by counting digits.
-/
def nearest? (negative : Bool) (digits : Nat) (exponent : Int) : Option Float :=
  let signed (x : Float) := if negative then -x else x
  if digits = 0 then some (signed 0.0)
  else
    let top := (Nat.toDigits 10 digits).length + exponent
    if 400 < top then none
    else if top < -400 then some (signed 0.0)
    else
      let x :=
        if 0 ≤ exponent then Float.ofScientific (digits * Nat.pow 10 exponent.toNat) false 0
        else Float.ofScientific digits true (-exponent).toNat
      if x.isFinite then some (signed x) else none

def ofInt (n : Int) : Float :=
  match n with
  | .ofNat m => Float.ofNat m
  | .negSucc m => -(Float.ofNat (m + 1))

end AdMonitor.Decimal
