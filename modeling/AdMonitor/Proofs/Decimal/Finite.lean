import AdMonitor.Json.Reader
import Mathlib

/-!
# Numbers that are read are finite

A binary number is finite when the exponent of its last place is small enough.
Rounding raises that exponent by no more than the length of the significand, so
an integer of 64 bits is taken to a finite number; the sign does not matter.
-/

namespace AdMonitor.Decimal

open Float.Model (UnpackedFloat Format)
open Float.Model.UnpackedFloat

/-- Whether a number is zero, or its last place is worth at most `2 ^ bound`. -/
def AtMost (bound : Int) : UnpackedFloat → Prop
  | .zero _ => True
  | .finite _ _ exponent _ => exponent ≤ bound
  | .infinity _ | .notANumber => False

def Within (bound : Int) : UnpackedFloat → Prop
  | .zero _ => True
  | .finite _ significand exponent _ => significand < 2 ^ 53 ∧ exponent ≤ bound
  | .infinity _ | .notANumber => False

variable {bound : Int} {f g : UnpackedFloat} {sign : Sign} {significand size : Nat}
  {exponent : Int} {accuracy : Accuracy}

theorem AtMost.mono {other : Int} (fits : AtMost bound f) (le : bound ≤ other) :
    AtMost other f := by
  cases f with
  | zero => trivial
  | finite => exact Int.le_trans fits le
  | infinity | notANumber => exact fits.elim

theorem Within.atMost (within : Within bound f) : AtMost bound f := by
  cases f with
  | zero => trivial
  | finite => exact within.2
  | infinity | notANumber => exact within.elim

theorem Within.isFinite (within : Within bound f) : f.isFinite = true := by
  cases f with
  | zero | finite => rfl
  | infinity | notANumber => exact within.elim

/-! ## Packing -/

theorem unpack_within {bits : BitVec Format.binary64.numBits}
    (notGreatest : unpackExponent bits ≠ -1#_) (low : -1074 ≤ bound)
    (isBound : ((unpackExponent bits).toNat : Int) - 1075 ≤ bound) :
    Within bound (unpack Format.binary64 bits) := by
  have short := (unpackMantissa bits).isLt
  unfold unpack
  simp only [notGreatest, if_false]
  split
  · split
    · trivial
    · next isLeast _ =>
      refine ⟨?_, ?_⟩
      · simp at short ⊢
        omega
      · simp [isLeast, Format.exponentBias]
        omega
  · refine ⟨?_, ?_⟩
    · have long := (1#1 ++ unpackMantissa bits).isLt
      simpa using long
    · simp [Format.exponentBias]
      omega

/-- A number whose last place is not worth too much keeps its exponent when it is packed. -/
theorem pack_within (low : -1074 ≤ bound) (high : bound ≤ 971) (fits : AtMost bound f) :
    Within bound (Float.Model.pack f).unpack := by
  have unpacked : (Float.Model.pack f).unpack =
      unpack Format.binary64 (pack Format.binary64 f) := by
    simp [Float.Model.unpack, Float.Model.pack]
  rw [unpacked]
  cases f with
  | infinity | notANumber => exact fits.elim
  | zero sign =>
      refine unpack_within ?_ low ?_ <;> simp [pack, packedZero]
      omega
  | finite sign significand exponent positive =>
      rw [AtMost] at fits
      have representable : ¬ 2048 ≤ (exponent + 1023 + 52).toNat + 1 := by omega
      obtain ⟨stored, fraction, isPacked, isStored⟩ : ∃ stored fraction,
          pack Format.binary64 (.finite sign significand exponent positive) =
            packComponents Format.binary64 sign stored fraction ∧
          (stored = BitVec.ofNat _ (exponent + 1023 + 52).toNat ∨ stored = 0#_) := by
        simp only [pack]
        split
        · next tooLarge => exact absurd tooLarge representable
        · split
          · exact ⟨_, _, rfl, .inl rfl⟩
          · exact ⟨_, _, rfl, .inr rfl⟩
      have value : stored.toNat = (exponent + 1023 + 52).toNat ∨ stored.toNat = 0 := by
        rcases isStored with rfl | rfl
        · left
          simp
          omega
        · exact .inr rfl
      rw [isPacked]
      refine unpack_within ?_ low ?_
      · rw [unpackExponent_packComponents]
        intro isGreatest
        have : stored.toNat = 2047 := by
          rw [isGreatest]
          rfl
        omega
      · rw [unpackExponent_packComponents]
        omega

theorem within_of_isFinite {x : Float} (isFinite : x.isFinite = true) :
    Within 971 x.toModel.unpack := by
  have notGreatest : @unpackExponent Format.binary64 x.toModel.toBits.toBitVec ≠ -1#_ := by
    intro isGreatest
    have isFinite : x.toModel.unpack.isFinite = true := isFinite
    rw [Float.Model.unpack, unpack] at isFinite
    simp only [isGreatest, if_true] at isFinite
    split at isFinite <;> cases isFinite
  refine unpack_within notGreatest (by decide) ?_
  have notGreatest' : (@unpackExponent Format.binary64 x.toModel.toBits.toBitVec).toNat ≠
      2047 := fun same => notGreatest (BitVec.eq_of_toNat_eq same)
  have short := (@unpackExponent Format.binary64 x.toModel.toBits.toBitVec).isLt
  simp at short
  omega

/-- A number that is packed from a sufficiently small one is finite. -/
theorem isFinite_of_atMost {x : Float} (isPacked : x.toModel = Float.Model.pack f)
    (fits : AtMost 971 f) : x.isFinite = true := by
  have within := pack_within (by decide) (by decide) fits
  rw [← isPacked] at within
  exact within.isFinite

theorem isFinite_neg {x : Float} (isFinite : x.isFinite = true) : (-x).isFinite = true := by
  refine isFinite_of_atMost (f := neg x.toModel.unpack) rfl ?_
  have fits := (within_of_isFinite isFinite).atMost
  revert fits
  cases x.toModel.unpack <;> exact id

/-! ## Rounding -/

theorem mantissa_shiftRight_le (extended : ExtendedMantissa) (n : Nat) :
    (extended >>> n).mantissa ≤ extended.mantissa := by
  have once : ∀ e : ExtendedMantissa, e.shiftRightOne.mantissa ≤ e.mantissa :=
    fun e => Nat.div_le_self e.mantissa 2
  change (n.repeat ExtendedMantissa.shiftRightOne extended).mantissa ≤ extended.mantissa
  induction n with
  | zero => exact Nat.le_refl _
  | succ n ih => exact Nat.le_trans (once _) ih

theorem roundedMantissa_le (extended : ExtendedMantissa) :
    extended.roundedMantissa ≤ extended.mantissa + 1 := by
  rw [ExtendedMantissa.roundedMantissa]
  unfold Accuracy.roundToNearestEven
  split <;> omega

theorem log2_le (fits : significand < 2 ^ size) : significand.log2 ≤ size := by
  by_cases isZero : significand = 0
  · simp [isZero]
  · exact Nat.le_of_lt ((Nat.log2_lt isZero).2 fits)

theorem shiftToTargetExponent_le (accuracy : Accuracy) (fits : significand < 2 ^ size)
    (isBound : exponent ≤ bound) (low : -1074 ≤ bound) :
    (shiftToTargetExponent Format.binary64 significand exponent accuracy).1.mantissa ≤
        significand ∧
      (shiftToTargetExponent Format.binary64 significand exponent accuracy).2 ≤ bound + size := by
  have short := log2_le fits
  constructor
  · refine Nat.le_trans (mantissa_shiftRight_le _ _) ?_
    unfold ExtendedMantissa.ofMantissaAndAccuracy
    split <;> exact Nat.le_refl _
  · simp [shiftToTargetExponent, shiftToExponent, Format.targetExponent,
      Float.Model.totalExponent, Format.mantissaBits, Format.minExponent]
    omega

/-- Rounding shifts twice, the second time a significand that is at most one bit longer. -/
theorem roundWithAccuracy_atMost (fits : significand < 2 ^ size) (isBound : exponent ≤ bound)
    (low : -1074 ≤ bound) :
    AtMost (bound + size + (size + 1 : Nat))
      (roundWithAccuracy Format.binary64 sign significand exponent accuracy) := by
  obtain ⟨isShorter, first⟩ := shiftToTargetExponent_le accuracy fits isBound low
  have rounded := roundedMantissa_le
    (shiftToTargetExponent Format.binary64 significand exponent accuracy).1
  have fits' : (shiftToTargetExponent Format.binary64 significand exponent
      accuracy).1.roundedMantissa < 2 ^ (size + 1) := by
    rw [Nat.pow_succ]
    have := Nat.two_pow_pos size
    omega
  obtain ⟨-, second⟩ := shiftToTargetExponent_le .exact fits' first (by omega)
  simp only [roundWithAccuracy]
  split
  · trivial
  · exact second

theorem round_atMost {n : Nat} (fits : n < 2 ^ 53) :
    AtMost 300 (UnpackedFloat.round Format.binary64 sign n 0) := by
  have short := log2_le fits
  obtain ⟨shift, isShift⟩ : ∃ s, s =
      (0 - Format.binary64.targetExponent (Float.Model.totalExponent n 0)).toNat := ⟨_, rfl⟩
  have few : shift ≤ 53 := by
    simp [isShift, Format.targetExponent, Float.Model.totalExponent, Format.mantissaBits,
      Format.minExponent]
    omega
  have shifted : n <<< shift < 2 ^ 106 := by
    rw [Nat.shiftLeft_eq]
    calc
      n * 2 ^ shift ≤ n * 2 ^ 53 :=
        Nat.mul_le_mul_left n (Nat.pow_le_pow_right (by decide) few)
      _ < 2 ^ 106 := by omega
  have isBound : (0 : Int) - shift ≤ 0 := by omega
  simp only [UnpackedFloat.round, decreaseExponent, ← isShift]
  exact (roundWithAccuracy_atMost shifted isBound (by decide)).mono (by decide)

theorem mul_atMost (left : Within 300 f) (right : Within 300 g) :
    AtMost 971 (mul Format.binary64 f g) := by
  cases f with
  | infinity | notANumber => exact left.elim
  | zero =>
      cases g with
      | infinity | notANumber => exact right.elim
      | zero | finite => trivial
  | finite s m e =>
      cases g with
      | infinity | notANumber => exact right.elim
      | zero => trivial
      | finite s' m' e' =>
          obtain ⟨short, small⟩ := left
          obtain ⟨short', small'⟩ := right
          have product : m * m' < 2 ^ 106 := by
            calc
              m * m' ≤ 2 ^ 53 * m' := Nat.mul_le_mul_right _ (Nat.le_of_lt short)
              _ < 2 ^ 106 := by omega
          have isBound : e + e' ≤ 600 := by omega
          exact (roundWithAccuracy_atMost product isBound (by decide)).mono (by decide)

/-! ## Integers -/

theorem isFinite_ofNat {n : Nat} (fits : n < 2 ^ 64) : (Float.ofNat n).isFinite = true := by
  have isScientific : Float.ofNat n = Float.ofScientific n false 0 := rfl
  rw [isScientific, Float.ofScientific]
  split
  · next isShort =>
    have left : Within 300 n.toUInt64.toFloat.toModel.unpack := by
      change Within 300
        (Float.Model.pack (Float.Model.UnpackedFloat.ofNat Format.binary64 n.toUInt64.toNat)).unpack
      refine pack_within (by decide) (by decide) ?_
      have same : n.toUInt64.toNat = n := by
        simp
        omega
      rw [same]
      simp only [Float.Model.UnpackedFloat.ofNat, Float.Model.UnpackedFloat.ofInt,
        UnpackedFloat.normalize]
      split
      · next isNegative =>
        rw [Int.compare_eq_lt] at isNegative
        omega
      · trivial
      · exact round_atMost isShort.1
    have right : Within 300 Float.exactlyRepresentablePowersOfTen[0].toModel.unpack :=
      ⟨by decide, by decide⟩
    exact isFinite_of_atMost rfl (mul_atMost left right)
  · next isLong =>
    have notZero : n ≠ 0 := by
      rintro rfl
      exact isLong (by decide)
    have notLarge : ¬ (0 : Int) > 2 ^ Format.binary64.exponentBits := by decide
    have notSmall : ¬ (0 : Int) < -((2 ^ Format.binary64.exponentBits : Int) + n.log2) := by
      have : (0 : Int) < 2 ^ Format.binary64.exponentBits := by decide
      omega
    have shifted : n <<< Format.binary64.mantissaBits * 10 ^ (0 : Int).toNat < 2 ^ 117 := by
      have : Format.binary64.mantissaBits = 53 := rfl
      rw [Nat.shiftLeft_eq, this]
      simp
      omega
    have isBound : -(Format.binary64.mantissaBits : Int) + 0 ≤ 0 := by decide
    refine isFinite_of_atMost (f := Float.Model.UnpackedFloat.ofScientific Format.binary64 n 0)
      rfl ?_
    rw [Float.Model.UnpackedFloat.ofScientific, dif_neg notZero, if_neg notLarge, if_neg notSmall,
      if_pos (by decide), mul]
    generalize n <<< Format.binary64.mantissaBits * 10 ^ (0 : Int).toNat = product at shifted ⊢
    exact (roundWithAccuracy_atMost shifted isBound (by decide)).mono (by decide)

/-- An integer that a text keeps as an integer is taken to a finite number. -/
theorem isFinite_ofInt {n : Int} (isPlain : Json.isPlainInt n = true) :
    (ofInt n).isFinite = true := by
  have bounds : -2 ^ 63 ≤ n ∧ n < 2 ^ 64 := by
    simpa [Json.isPlainInt, UInt64.size] using isPlain
  cases n with
  | ofNat n =>
      rw [Int.ofNat_eq_natCast] at bounds
      exact isFinite_ofNat (by omega)
  | negSucc n => exact isFinite_neg (isFinite_ofNat (by omega))

/-- The number nearest to a decimal is finite, if there is one. -/
theorem isFinite_of_nearest? {negative : Bool} {digits : Nat} {exponent : Int} {x : Float}
    (isNearest : nearest? negative digits exponent = some x) : x.isFinite = true := by
  have zero : (0.0 : Float).isFinite = true := by decide
  have signed : ∀ y : Float, y.isFinite = true →
      (if negative then -y else y).isFinite = true := by
    intro y isFinite
    split
    · exact isFinite_neg isFinite
    · exact isFinite
  rw [nearest?] at isNearest
  by_cases isZero : digits = 0
  · rw [if_pos isZero] at isNearest
    cases isNearest
    exact signed _ zero
  · rw [if_neg isZero] at isNearest
    dsimp only at isNearest
    generalize ((Nat.toDigits 10 digits).length : Int) + exponent = top at isNearest
    generalize (if 0 ≤ exponent then Float.ofScientific (digits * Nat.pow 10 exponent.toNat) false 0
      else Float.ofScientific digits true (-exponent).toNat) = y at isNearest
    by_cases isHuge : 400 < top
    · rw [if_pos isHuge] at isNearest
      cases isNearest
    · rw [if_neg isHuge] at isNearest
      by_cases isTiny : top < -400
      · rw [if_pos isTiny] at isNearest
        cases isNearest
        exact signed _ zero
      · rw [if_neg isTiny] at isNearest
        by_cases isFinite : y.isFinite = true
        · rw [if_pos isFinite] at isNearest
          cases isNearest
          exact signed _ isFinite
        · rw [if_neg isFinite] at isNearest
          cases isNearest

end AdMonitor.Decimal
