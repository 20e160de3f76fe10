import AdMonitor.Metric
import Mathlib

/-!
# Negative zero is neutral

Sums start from negative zero, which leaves every number as it is, also the
infinities, positive zero and what is not a number (`Decimal.negativeZero_add`).
The result of an addition is packed again, so this rests on packing what was
unpacked (`Decimal.pack_unpack`).
-/

namespace AdMonitor.Decimal

open Float.Model (UnpackedFloat Format)
open Float.Model.UnpackedFloat

variable {bits : BitVec Format.binary64.numBits} {exponent : BitVec Format.binary64.exponentBits}
  {significand : BitVec Format.binary64.mantissaBitsWithoutImplicit}

/-- The sign, the exponent and the significand of a number make up its bits. -/
theorem packComponents_unpack (isExponent : unpackExponent bits = exponent)
    (isSignificand : unpackMantissa bits = significand) :
    packComponents Format.binary64 (Sign.ofBitVec (unpackSign bits)) exponent significand =
      bits := by
  have signed : ∀ sign : BitVec 1, (Sign.ofBitVec sign).toBitVec = sign := by decide
  subst isExponent isSignificand
  rw [packComponents, signed]
  ext i isIndex
  simp only [unpackSign, unpackExponent, unpackMantissa, BitVec.extractLsb]
  grind

theorem log2_of_short {n : Nat} (isShort : n < 2 ^ 52) :
    n.log2 + 1 ≠ Format.binary64.mantissaBits := by
  have size : Format.binary64.mantissaBits = 53 := rfl
  by_cases isZero : n = 0
  · subst isZero
    decide
  · have := (Nat.log2_lt isZero).2 isShort
    omega

theorem log2_of_long {n : Nat} (isShort : n < 2 ^ 52) :
    (2 ^ 52 + n).log2 + 1 = Format.binary64.mantissaBits := by
  have size : Format.binary64.mantissaBits = 53 := rfl
  have low : 52 ≤ (2 ^ 52 + n).log2 := (Nat.le_log2 (by omega)).2 (by omega)
  have high : (2 ^ 52 + n).log2 < 53 := (Nat.log2_lt (by omega)).2 (by omega)
  omega

theorem pack_unpack (valid : Format.binary64.Valid bits) :
    pack Format.binary64 (unpack Format.binary64 bits) = bits := by
  have isShort : (unpackMantissa bits).toNat < 2 ^ 52 := (unpackMantissa bits).isLt
  have isBounded : (unpackExponent bits).toNat < 2 ^ 11 := (unpackExponent bits).isLt
  have bias : Format.binary64.exponentBias = 1023 := rfl
  unfold unpack
  dsimp only
  split
  · rename_i isGreatest
    split
    · rename_i isZero
      exact packComponents_unpack isGreatest isZero
    · rename_i isNaN
      exact (valid.eq_packedNaN isGreatest isNaN).symm
  · rename_i notGreatest
    split
    · rename_i isLeast
      split
      · rename_i isZero
        exact packComponents_unpack isLeast isZero
      · -- A subnormal number has the exponent of the least normal ones, but fewer bits.
        have stored : (((unpackExponent bits).toNat : Int) -
            (Format.binary64.exponentBias + Format.binary64.mantissaBitsWithoutImplicit) + 1 +
            Format.binary64.exponentBias + Format.binary64.mantissaBitsWithoutImplicit).toNat =
              1 := by
          rw [isLeast, bias]
          rfl
        rw [pack]
        simp only [stored]
        rw [if_neg (by decide), if_neg (log2_of_short isShort)]
        refine packComponents_unpack isLeast ?_
        rw [BitVec.ofNat_toNat, BitVec.setWidth_eq]
    · -- A normal number has one more bit in front of the stored significand.
      have stored : (((unpackExponent bits).toNat : Int) -
          (Format.binary64.exponentBias + Format.binary64.mantissaBitsWithoutImplicit) +
          Format.binary64.exponentBias + Format.binary64.mantissaBitsWithoutImplicit).toNat =
            (unpackExponent bits).toNat := by
        omega
      have isLong : (1#1 ++ unpackMantissa bits).toNat = 2 ^ 52 + (unpackMantissa bits).toNat := by
        rw [BitVec.toNat_append, Nat.shiftLeft_eq]
        simpa using (Nat.two_pow_add_eq_or_of_lt isShort 1).symm
      have notGreatest' : (unpackExponent bits).toNat ≠ 2047 := fun same =>
        notGreatest (BitVec.eq_of_toNat_eq same)
      rw [pack]
      simp only [stored, isLong]
      rw [if_neg (by simp only [Format.binary64]; omega), if_pos (log2_of_long isShort)]
      refine packComponents_unpack ?_ (BitVec.eq_of_toNat_eq ?_)
      · rw [BitVec.ofNat_toNat, BitVec.setWidth_eq]
      · rw [BitVec.toNat_ofNat, Nat.add_mod_left]
        exact (Nat.mod_eq_of_lt isShort).symm

/-- Negative zero is neutral, whatever is added to it. -/
theorem negativeZero_add (x : Float) : -0.0 + x = x := by
  have isZero : (-0.0 : Float).toModel.unpack = .zero .negative := rfl
  have neutral : ∀ f : UnpackedFloat, add Format.binary64 (.zero .negative) f = f := by
    intro f
    cases f with
    | zero sign => cases sign <;> rfl
    | infinity | notANumber | finite => rfl
  have packed : Float.Model.pack x.toModel.unpack = x.toModel := by
    obtain ⟨bits, valid⟩ := x.toModel
    simp only [Float.Model.pack, Float.Model.unpack, pack_unpack valid]
  have sum : (-0.0 + x).toModel = x.toModel :=
    calc (-0.0 + x).toModel
        = Float.Model.pack (add Format.binary64 (-0.0 : Float).toModel.unpack x.toModel.unpack) :=
          rfl
      _ = x.toModel := by rw [isZero, neutral, packed]
  exact congrArg Float.ofModel sum

end AdMonitor.Decimal
