import AdMonitor.Decimal.Text

/-!
# The order of numbers

Two numbers can be compared unless one of them is not a number, and comparing
them the other way round gives the opposite.  So among numbers the order is
total (`Decimal.le_of_not_lt`), and what is at most another is not above it.
-/

namespace AdMonitor.Decimal

open Float.Model (UnpackedFloat)

section Unpacked

variable {f g : UnpackedFloat}

theorem compare_swap (f g : UnpackedFloat) : g.compare f = (f.compare g).map Ordering.swap := by
  have opposite : ∀ (m n : Nat) (d e : Int), (compare e d).then (compare n m) =
      ((compare d e).then (compare m n)).swap := by
    intro m n d e
    rw [Ordering.swap_then, ← Std.OrientedCmp.eq_swap, ← Std.OrientedCmp.eq_swap]
  have signs : ∀ s t : UnpackedFloat.Sign, compare t s = (compare s t).swap := by
    intro s t
    cases s <;> cases t <;> rfl
  cases f with
  | notANumber => cases g <;> rfl
  | infinity s =>
      cases g with
      | infinity t => exact congrArg some (signs s t)
      | notANumber | zero | finite => cases s <;> rfl
  | zero s =>
      cases g with
      | infinity t | finite t => cases t <;> rfl
      | notANumber | zero => rfl
  | finite s m d =>
      cases g with
      | infinity t => cases t <;> rfl
      | notANumber => cases s <;> rfl
      | zero => cases s <;> rfl
      | finite t n e =>
          cases s with
          | positive =>
              cases t with
              | positive => exact congrArg some (opposite m n d e)
              | negative => rfl
          | negative =>
              cases t with
              | positive => rfl
              | negative => exact congrArg (fun o => some (Ordering.swap o)) (opposite m n d e)

theorem compare_isSome (isLeft : f.isNaN = false) (isRight : g.isNaN = false) :
    (f.compare g).isSome = true := by
  cases f with
  | notANumber => cases isLeft
  | infinity s =>
      cases g with
      | notANumber => cases isRight
      | infinity => rfl
      | zero | finite => cases s <;> rfl
  | zero s =>
      cases g with
      | notANumber => cases isRight
      | infinity t | finite t => cases t <;> rfl
      | zero => rfl
  | finite s =>
      cases g with
      | notANumber => cases isRight
      | infinity t => cases t <;> rfl
      | zero => cases s <;> rfl
      | finite t => cases s <;> cases t <;> rfl

end Unpacked

variable {x y : Float}

theorem isNaN_of_isFinite (isFinite : x.isFinite = true) : x.isNaN = false := by
  change x.toModel.unpack.isFinite = true at isFinite
  change x.toModel.unpack.isNaN = false
  cases unpacked : x.toModel.unpack with
  | notANumber | infinity =>
      rw [unpacked] at isFinite
      cases isFinite
  | zero | finite => rfl

theorem lt_iff : x < y ↔ x.toModel.unpack.compare y.toModel.unpack = some .lt :=
  decide_eq_true_iff.trans beq_iff_eq

theorem le_iff : x ≤ y ↔
    ∃ order, x.toModel.unpack.compare y.toModel.unpack = some order ∧ order.isLE = true :=
  decide_eq_true_iff.trans (Option.any_eq_true ..)

/-- What is at most something is not above it. -/
theorem not_lt_of_le (isLess : x ≤ y) : ¬ y < x := by
  obtain ⟨order, compared, isLE⟩ := le_iff.1 isLess
  rw [lt_iff, compare_swap, compared]
  cases order with
  | lt | eq => nofun
  | gt => cases isLE

theorem le_of_not_lt (isLeft : x.isNaN = false) (isRight : y.isNaN = false)
    (notLess : ¬ x < y) : y ≤ x := by
  obtain ⟨order, compared⟩ := Option.isSome_iff_exists.1 (compare_isSome isLeft isRight)
  rw [lt_iff, compared] at notLess
  rw [le_iff, compare_swap, compared]
  cases order with
  | lt => exact absurd rfl notLess
  | eq | gt => exact ⟨_, rfl, rfl⟩

theorem le_refl (isNumber : x.isNaN = false) : x ≤ x := by
  refine le_of_not_lt isNumber isNumber fun isLess => ?_
  have compared := lt_iff.1 isLess
  have swapped := compare_swap x.toModel.unpack x.toModel.unpack
  rw [compared] at swapped
  cases swapped

/-- Only numbers are at most each other. -/
theorem isNaN_of_le (isLess : x ≤ y) : x.isNaN = false ∧ y.isNaN = false := by
  obtain ⟨order, compared, -⟩ := le_iff.1 isLess
  change x.toModel.unpack.isNaN = false ∧ y.toModel.unpack.isNaN = false
  revert compared
  generalize x.toModel.unpack = f
  generalize y.toModel.unpack = g
  intro compared
  constructor
  · cases f with
    | notANumber => cases compared
    | infinity | zero | finite => rfl
  · cases g with
    | notANumber =>
        rw [compare_swap] at compared
        cases compared
    | infinity | zero | finite => rfl

end AdMonitor.Decimal
