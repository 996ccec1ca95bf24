/-
**Rounded quotients, and the value of a set that is nearest to a target.**

* `le_rounded_iff`, `rounded_le_iff`: what a quotient rounded half up is at least and at most.
* `rounded_of_double`, `rounded_of_half`: two ways to compute it on truncating division.
* `rounded_anti`: a larger divisor gives no larger quotient.
* `Consecutive`: two members of a set with no member between them. A target between them has one of
  the two as its nearest member, and `isNearest_below_iff`, `isNearest_above_iff` say which.
-/

import Mathlib.Data.Nat.Dist
import Mathlib.Tactic.Ring

namespace PioUsbHost.Lib.Nearest

/-! ### Rounding half up -/

/-- `numerator / divisor`, rounded to the nearest integer, halves up. -/
def rounded (numerator divisor : Nat) : Nat := (2 * numerator + divisor) / (2 * divisor)

section Rounded

variable {numerator divisor bound : Nat}

theorem le_rounded_iff (positive : 0 < divisor) :
    bound ≤ rounded numerator divisor ↔ 2 * (bound * divisor) ≤ 2 * numerator + divisor := by
  have reordered : bound * (2 * divisor) = 2 * (bound * divisor) := by ring
  rw [rounded, Nat.le_div_iff_mul_le (by omega), reordered]

theorem rounded_le_iff (positive : 0 < divisor) :
    rounded numerator divisor ≤ bound ↔
      2 * numerator + divisor < 2 * (bound * divisor) + 2 * divisor := by
  rw [← Nat.lt_succ_iff, ← Nat.not_le, le_rounded_iff positive, Nat.succ_mul bound]
  omega

/-- A quotient that reaches an integer still does when it is rounded. -/
theorem le_rounded_of_mul_le (positive : 0 < divisor) (reaches : bound * divisor ≤ numerator) :
    bound ≤ rounded numerator divisor := by
  rw [le_rounded_iff positive]
  omega

theorem rounded_le_of_le_mul (positive : 0 < divisor) (atMost : numerator ≤ bound * divisor) :
    rounded numerator divisor ≤ bound := by
  rw [rounded_le_iff positive]
  omega

/-- The rounded quotient, times the divisor, is within half a divisor of the numerator. -/
theorem rounded_spec (numerator : Nat) (positive : 0 < divisor) :
    2 * (rounded numerator divisor * divisor) ≤ 2 * numerator + divisor ∧
      2 * numerator < 2 * (rounded numerator divisor * divisor) + divisor := by
  have lower := (le_rounded_iff positive).mp (Nat.le_refl (rounded numerator divisor))
  have upper := (rounded_le_iff positive).mp (Nat.le_refl (rounded numerator divisor))
  omega

/-- A larger divisor gives no larger quotient. -/
theorem rounded_anti {smaller larger : Nat} (positive : 0 < smaller) (le : smaller ≤ larger) :
    rounded numerator larger ≤ rounded numerator smaller := by
  have reached := (rounded_spec numerator (Nat.lt_of_lt_of_le positive le)).1
  rw [le_rounded_iff positive]
  obtain ⟨extra, rfl⟩ := Nat.exists_eq_add_of_le le
  generalize rounded numerator (smaller + extra) = quotient at reached ⊢
  rw [Nat.mul_add] at reached
  rcases Nat.eq_zero_or_pos quotient with rfl | more
  · omega
  · have := Nat.mul_le_mul_right extra more
    omega

/-- A common factor cancels. -/
theorem rounded_mul_left {factor : Nat} (positive : 0 < factor) :
    rounded (factor * numerator) (factor * divisor) = rounded numerator divisor := by
  have top : 2 * (factor * numerator) + factor * divisor = factor * (2 * numerator + divisor) := by
    ring
  have bottom : 2 * (factor * divisor) = factor * (2 * divisor) := by ring
  rw [rounded, top, bottom, Nat.mul_div_mul_left _ _ positive, rounded]

/-- A quotient that is whole needs no rounding. -/
theorem rounded_mul_self (positive : 0 < divisor) (quotient : Nat) :
    rounded (quotient * divisor) divisor = quotient :=
  Nat.le_antisymm (rounded_le_of_le_mul positive (Nat.le_refl _))
    (le_rounded_of_mul_le positive (Nat.le_refl _))

/-- The truncated quotient, and one more from half the divisor on. -/
theorem rounded_eq_div_add (positive : 0 < divisor) :
    rounded numerator divisor =
      numerator / divisor + if 2 * (numerator % divisor) < divisor then 0 else 1 := by
  have parts := Nat.div_add_mod numerator divisor
  have rest := Nat.mod_lt numerator positive
  rw [Nat.mul_comm] at parts
  split
  · rw [Nat.add_zero]
    refine Nat.le_antisymm ?_ ?_
    · rw [rounded_le_iff positive]
      omega
    · rw [le_rounded_iff positive]
      omega
  · refine Nat.le_antisymm ?_ ?_
    · rw [rounded_le_iff positive, Nat.add_mul]
      omega
    · rw [le_rounded_iff positive, Nat.add_mul]
      omega

/-- Rounding through the truncated quotient of twice the numerator. -/
theorem rounded_of_double (numerator divisor : Nat) :
    2 * numerator / divisor / 2 + 2 * numerator / divisor % 2 = rounded numerator divisor := by
  rcases Nat.eq_zero_or_pos divisor with rfl | positive
  · simp [rounded]
  · have halves : 2 * numerator / divisor / 2 + 2 * numerator / divisor % 2 =
        (2 * numerator / divisor + 1) / 2 := by omega
    rw [halves, ← Nat.add_div_right _ positive, Nat.div_div_eq_div_mul, Nat.mul_comm divisor,
      rounded]

/-- Rounding by adding half the divisor first. -/
theorem rounded_of_half (positive : 0 < divisor) :
    (numerator + divisor / 2) / divisor = rounded numerator divisor := by
  refine eq_of_forall_le_iff fun bound => ?_
  rw [le_rounded_iff positive, Nat.le_div_iff_mul_le positive]
  omega

end Rounded

/-! ### The nearest member of a set -/

/-- No member of the set is nearer to the target. -/
def IsNearest (Member : Nat → Prop) (target value : Nat) : Prop :=
  ∀ other, Member other → Nat.dist value target ≤ Nat.dist other target

/-- Two members of the set, and none strictly between them. -/
structure Consecutive (Member : Nat → Prop) (below above : Nat) : Prop where
  below_mem : Member below
  above_mem : Member above
  gap : ∀ other, Member other → other ≤ below ∨ above ≤ other

section Nearest

variable {Member : Nat → Prop} {target value below above : Nat}

theorem isNearest_greatest (greatest : ∀ other, Member other → other ≤ value)
    (reached : value ≤ target) : IsNearest Member target value := by
  intro other member
  have := greatest other member
  unfold Nat.dist
  omega

theorem isNearest_least (least : ∀ other, Member other → value ≤ other)
    (reached : target ≤ value) : IsNearest Member target value := by
  intro other member
  have := least other member
  unfold Nat.dist
  omega

namespace Consecutive

/-- **The lower one of the two is nearest** up to the middle between them. -/
theorem isNearest_below_iff (pair : Consecutive Member below above) (low : below ≤ target)
    (high : target ≤ above) : IsNearest Member target below ↔ 2 * target ≤ below + above := by
  constructor
  · intro nearest
    have near := nearest above pair.above_mem
    unfold Nat.dist at near
    omega
  · intro lowHalf other member
    have outside := pair.gap other member
    unfold Nat.dist
    omega

/-- **The upper one of the two is nearest** from the middle between them on. -/
theorem isNearest_above_iff (pair : Consecutive Member below above) (low : below ≤ target)
    (high : target ≤ above) : IsNearest Member target above ↔ below + above ≤ 2 * target := by
  constructor
  · intro nearest
    have near := nearest below pair.below_mem
    unfold Nat.dist at near
    omega
  · intro highHalf other member
    have outside := pair.gap other member
    unfold Nat.dist
    omega

/-- Any value is nearest as soon as it is as near as both. -/
theorem isNearest_iff (pair : Consecutive Member below above) (low : below ≤ target)
    (high : target ≤ above) :
    IsNearest Member target value ↔
      Nat.dist value target ≤ Nat.dist below target ∧
        Nat.dist value target ≤ Nat.dist above target := by
  constructor
  · intro nearest
    exact ⟨nearest below pair.below_mem, nearest above pair.above_mem⟩
  · rintro ⟨toBelow, toAbove⟩ other member
    have outside := pair.gap other member
    unfold Nat.dist at *
    omega

end Consecutive

end Nearest

end PioUsbHost.Lib.Nearest
