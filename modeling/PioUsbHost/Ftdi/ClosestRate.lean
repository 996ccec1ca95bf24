/-
**The closest rate, and where the search misses it.**

Every rate of a chip is a base clock over 1, over 1.5 or over a number of eighths from 2 on, rounded to
the nearest integer. The search takes the divisor that is nearest to the quotient of the clock and the
request, below half the clock, and the next lower rate above it.

* `Rates.consecutive`: two neighbouring divisors have no other rate between theirs.
* `middle_le`: a divisor rounded up has the nearer rate; one rounded down need not have it.
* `isNearest_clockEighths_iff`: exactly when the search for a base clock finds the nearest rate.
* `isNearest_amEighths_iff`: the same for the search of the FT232AM.
* `picksClosest_iff`: exactly when a conversion returns the closest rate of the chip.
-/

import PioUsbHost.Ftdi.AmDivisors

namespace PioUsbHost.Ftdi

open PioUsbHost.Lib.Panic PioUsbHost.Lib.Nearest

/-! ### The rates of a chip -/

/-- A divisor in eighths: 1, 1.5, or at least 2. -/
def IsDivisor (eighths : Nat) : Prop :=
  eighths = 8 ∨ eighths = 12 ∨ 16 ≤ eighths ∧ eighths ≤ 0x1ffff

/-- The base clocks that a chip can select. -/
def FtdiChip.clocks (chip : FtdiChip) : List Nat :=
  if chip.isHType then [3000000, 12000000] else [3000000]

/-- A rate that the divisor encoding of a chip can express. -/
def IsRate (chip : FtdiChip) (rate : Nat) : Prop :=
  ∃ clock ∈ chip.clocks, ∃ eighths, IsDivisor eighths ∧ rate = rounded (8 * clock) eighths

/-- A set of rates that has those of a base clock, and no others but of larger divisors of it. -/
structure Rates (base : Nat) (Member : Nat → Prop) : Prop where
  mem : ∀ {eighths}, IsDivisor eighths → Member (rounded (8 * base) eighths)
  of_mem : ∀ {rate}, Member rate →
    ∃ eighths, (eighths = 8 ∨ eighths = 12 ∨ 16 ≤ eighths) ∧ rate = rounded (8 * base) eighths

theorem FtdiChip.clock_cases {chip : FtdiChip} {clock : Nat} (member : clock ∈ chip.clocks) :
    clock = 3000000 ∨ clock = 12000000 := by
  rw [clocks] at member
  split at member
  · simpa using member
  · exact .inl (List.mem_singleton.mp member)

/-- The rates of a chip with one clock. -/
theorem rates_of_plain {chip : FtdiChip} (plain : chip.isHType = false) :
    Rates 3000000 (IsRate chip) := by
  have one : chip.clocks = [3000000] := by rw [FtdiChip.clocks, plain]; rfl
  constructor
  · intro eighths divisor
    exact ⟨3000000, by simp [one], eighths, divisor, rfl⟩
  · rintro rate ⟨clock, member, eighths, divisor, rfl⟩
    rw [one, List.mem_singleton] at member
    exact ⟨eighths, divisor.imp_right (Or.imp_right And.left), by rw [member]⟩

/-- The rates of an H type: a divisor of the slower clock is four times that of the faster one. -/
theorem rates_of_hType {chip : FtdiChip} (hType : chip.isHType = true) :
    Rates 12000000 (IsRate chip) := by
  have two : chip.clocks = [3000000, 12000000] := by rw [FtdiChip.clocks, hType]; rfl
  constructor
  · intro eighths divisor
    exact ⟨12000000, by simp [two], eighths, divisor, rfl⟩
  · rintro rate ⟨clock, member, eighths, divisor, rfl⟩
    rw [two] at member
    rcases List.mem_pair.mp member with rfl | rfl
    · have scaled : rounded (4 * (8 * 3000000)) (4 * eighths) = rounded (8 * 3000000) eighths :=
        rounded_mul_left (by decide)
      have atLeast : 8 ≤ eighths := by
        unfold IsDivisor at divisor
        omega
      exact ⟨4 * eighths, .inr (.inr (by omega)), scaled.symm⟩
    · exact ⟨eighths, divisor.imp_right (Or.imp_right And.left), rfl⟩

namespace Rates

variable {base : Nat} {Member : Nat → Prop}

/-- **Two neighbouring divisors** have no other rate between theirs. -/
theorem consecutive (rates : Rates base Member) {eighths : Nat} (least : 16 ≤ eighths)
    (most : eighths < 0x1ffff) :
    Consecutive Member (rounded (8 * base) (eighths + 1)) (rounded (8 * base) eighths) where
  below_mem := rates.mem (.inr (.inr (by omega)))
  above_mem := rates.mem (.inr (.inr (by omega)))
  gap := by
    intro rate member
    obtain ⟨other, divisor, rfl⟩ := rates.of_mem member
    rcases Nat.lt_or_ge eighths other with larger | smaller
    · exact .inl (rounded_anti (by omega) larger)
    · exact .inr (rounded_anti (by omega) smaller)

end Rates

/-- The rates of the divisors 1, 1.5 and 2, of a base clock that six divides. -/
theorem rounded_special (sixth : Nat) : rounded (8 * (6 * sixth)) 8 = 6 * sixth ∧
    rounded (8 * (6 * sixth)) 12 = 4 * sixth ∧ rounded (8 * (6 * sixth)) 16 = 3 * sixth := by
  unfold rounded
  omega

theorem Rates.special {sixth : Nat} {Member : Nat → Prop} (rates : Rates (6 * sixth) Member) :
    (∀ rate, Member rate → rate ≤ 6 * sixth) ∧
      Consecutive Member (4 * sixth) (6 * sixth) ∧ Consecutive Member (3 * sixth) (4 * sixth) := by
  obtain ⟨one, oneAndHalf, two⟩ := rounded_special sixth
  have full : Member (6 * sixth) := one ▸ rates.mem (.inl rfl)
  have twoThirds : Member (4 * sixth) := oneAndHalf ▸ rates.mem (.inr (.inl rfl))
  have half : Member (3 * sixth) := two ▸ rates.mem (.inr (.inr (by decide)))
  have cases : ∀ rate, Member rate → rate = 6 * sixth ∨ rate = 4 * sixth ∨ rate ≤ 3 * sixth := by
    intro rate member
    obtain ⟨eighths, rfl | rfl | least, rfl⟩ := rates.of_mem member
    · exact .inl one
    · exact .inr (.inl oneAndHalf)
    · exact .inr (.inr (two ▸ rounded_anti (by decide) least))
  refine ⟨fun rate member => ?_, ⟨twoThirds, full, fun rate member => ?_⟩,
    ⟨half, twoThirds, fun rate member => ?_⟩⟩
  · have := cases rate member
    omega
  · have := cases rate member
    omega
  · have := cases rate member
    omega

/-! ### The search for a base clock -/

/-- **A divisor rounded up has the nearer rate**: its quotient is convex. -/
theorem middle_le {numerator divisor baud : Nat} (positive : 0 < divisor)
    (roundsUp : (2 * divisor + 1) * baud ≤ 2 * numerator) :
    2 * baud ≤ rounded numerator (divisor + 1) + rounded numerator divisor := by
  have below := (rounded_spec numerator (show 0 < divisor + 1 by omega)).2
  have above := (rounded_spec numerator positive).2
  have doubled : (2 * divisor + 1) * baud = 2 * (baud * divisor) + baud := by ring
  have reached : baud ≤ rounded numerator divisor := le_rounded_of_mul_le positive (by omega)
  obtain ⟨excess, upper⟩ := Nat.exists_eq_add_of_le reached
  rw [upper, Nat.add_mul] at above
  rw [upper]
  by_contra less
  -- Both rates are so low that the request would be below the rounded-down divisor's middle.
  obtain ⟨gap, short⟩ := Nat.exists_eq_add_of_lt
    (show rounded numerator (divisor + 1) + excess < baud by omega)
  rw [Nat.mul_add_one] at below
  have product : baud * divisor =
      (rounded numerator (divisor + 1) * divisor + excess * divisor) + gap * divisor + divisor := by
    rw [short]
    ring
  omega

/-- The condition under which the search for a base clock finds the nearest rate. -/
structure FindsNearest (base baud : Nat) : Prop where
  /-- Between two thirds of the clock and the whole of it, the lower one is taken. -/
  belowWhole : 2 * base ≤ 3 * baud → baud < base → 6 * baud ≤ 5 * base
  /-- Between half the clock and two thirds of it, the lower one is taken. -/
  belowTwoThirds : base ≤ 2 * baud → 3 * baud < 2 * base → 12 * baud ≤ 7 * base
  /-- Further down, the nearest divisor is taken. -/
  belowHalf : 2 * baud < base → 8 * base / baud < 0x1ffff → 2 * (8 * base % baud) < baud →
    rounded (8 * base) (8 * base / baud) + rounded (8 * base) (8 * base / baud + 1) ≤ 2 * baud

/-- The truncated divisor and its successor have the rates around the request. -/
theorem Rates.around {base baud : Nat} (positive : 0 < baud) (nonzero : 0 < 8 * base / baud) :
    rounded (8 * base) (8 * base / baud + 1) ≤ baud ∧ baud ≤ rounded (8 * base) (8 * base / baud) := by
  have parts := Nat.div_add_mod (8 * base) baud
  have rest := Nat.mod_lt (8 * base) positive
  refine ⟨rounded_le_of_le_mul (Nat.succ_pos _) ?_, le_rounded_of_mul_le nonzero ?_⟩
  · rw [Nat.mul_add_one]
    omega
  · omega

theorem isNearest_belowHalf_iff {base baud : Nat} {Member : Nat → Prop}
    (rates : Rates base Member) (positive : 0 < baud) (slow : 2 * baud < base)
    (above : 8 * base / baud < 0x1ffff) :
    IsNearest Member baud (rounded (8 * base) (min (rounded (8 * base) baud) 0x1ffff)) ↔
      FindsNearest base baud := by
  have least : 16 ≤ 8 * base / baud := (Nat.le_div_iff_mul_le positive).mpr (by omega)
  have pair := rates.consecutive least above
  obtain ⟨low, high⟩ := Rates.around positive (Nat.lt_of_lt_of_le (by decide) least)
  rw [rounded_eq_div_add positive]
  split
  next roundsDown =>
    rw [Nat.add_zero, Nat.min_eq_left (by omega), pair.isNearest_above_iff low high, Nat.add_comm]
    constructor
    · intro nearer
      exact ⟨by omega, by omega, fun _ _ _ => nearer⟩
    · intro finds
      exact finds.belowHalf slow above roundsDown
  next roundsUp =>
    rw [Nat.min_eq_left (by omega), pair.isNearest_below_iff low high]
    refine ⟨fun _ => ⟨by omega, by omega, fun _ _ roundsDown => absurd roundsDown roundsUp⟩, fun _ => ?_⟩
    have parts := Nat.div_add_mod (8 * base) baud
    have doubled : (2 * (8 * base / baud) + 1) * baud = 2 * (baud * (8 * base / baud)) + baud := by
      ring
    exact middle_le (by omega) (by omega)

/-- **The search for a base clock** finds the nearest rate under the condition, and only then. -/
theorem isNearest_clockEighths_iff {sixth baud : Nat} {Member : Nat → Prop}
    (rates : Rates (6 * sixth) Member) (positive : 0 < baud)
    (above : 8 * (6 * sixth) / baud < 0x1ffff) :
    IsNearest Member baud (rounded (8 * (6 * sixth)) (clockEighths (6 * sixth) baud)) ↔
      FindsNearest (6 * sixth) baud := by
  obtain ⟨one, oneAndHalf, two⟩ := rounded_special sixth
  obtain ⟨greatest, upperPair, lowerPair⟩ := rates.special
  rw [clockEighths]
  split
  next fast =>
    rw [one]
    refine ⟨fun _ => ⟨?_, ?_, ?_⟩, fun _ => isNearest_greatest greatest fast⟩
    · omega
    · omega
    · omega
  next slower =>
  split
  next fast =>
    rw [oneAndHalf, upperPair.isNearest_below_iff (by omega) (by omega)]
    constructor
    · intro lowHalf
      exact ⟨by omega, by omega, by omega⟩
    · intro finds
      have := finds.belowWhole fast (by omega)
      omega
  next slower =>
  split
  next fast =>
    rw [two, lowerPair.isNearest_below_iff (by omega) (by omega)]
    constructor
    · intro lowHalf
      exact ⟨by omega, by omega, by omega⟩
    · intro finds
      have := finds.belowTwoThirds fast (by omega)
      omega
  next slow => exact isNearest_belowHalf_iff rates positive (by omega) above

/-! ### Low rates -/

theorem le_of_isRate {chip : FtdiChip} {rate : Nat} (member : IsRate chip rate) : 183 ≤ rate := by
  obtain ⟨clock, selectable, eighths, divisor, rfl⟩ := member
  unfold IsDivisor at divisor
  exact (rounded_bounds (FtdiChip.clock_cases selectable) (by omega) (by omega)).1

/-- The largest divisor has the lowest rate of all. -/
theorem isNearest_lowest {chip : FtdiChip} {baud : Nat} (low : baud ≤ 183) :
    IsNearest (IsRate chip) baud 183 :=
  isNearest_least (fun _ member => le_of_isRate member) low

/-- Up to 183, the divisor is clamped. -/
theorem clockEighths_of_lowest {baud : Nat} (positive : 0 < baud) (low : baud ≤ 183) :
    rounded (8 * 3000000) (clockEighths 3000000 baud) = 183 := by
  have clamped : 0x1ffff ≤ rounded (8 * 3000000) baud := le_rounded_of_mul_le positive (by omega)
  rw [clockEighths, if_neg (by omega), if_neg (by omega), if_neg (by omega),
    Nat.min_eq_right clamped]
  rfl

theorem findsNearest_of_lowest {baud : Nat} (positive : 0 < baud) (low : baud ≤ 183) :
    FindsNearest 3000000 baud := by
  refine ⟨by omega, by omega, fun _ above _ => ?_⟩
  rw [Nat.div_lt_iff_lt_mul positive] at above
  omega

/-- Up to 732, the divisors of the slower clock are so close that each integer is a rate. -/
theorem rounded_of_low {baud eighths : Nat} (low : baud ≤ 732) (least : 184 ≤ baud)
    (near : eighths = 8 * 3000000 / baud ∨ eighths = 8 * 3000000 / baud + 1) :
    rounded (8 * 3000000) eighths = baud := by
  have parts := Nat.div_add_mod (8 * 3000000) baud
  have rest := Nat.mod_lt (8 * 3000000) (show 0 < baud by omega)
  have many : 32786 ≤ 8 * 3000000 / baud := (Nat.le_div_iff_mul_le (by omega)).mpr (by omega)
  generalize 8 * 3000000 / baud = quotient at parts many near
  rcases near with rfl | rfl
  · refine Nat.le_antisymm ?_ (le_rounded_of_mul_le (by omega) (by omega))
    rw [rounded_le_iff (by omega)]
    omega
  · have product := Nat.mul_add_one baud quotient
    refine Nat.le_antisymm (rounded_le_of_le_mul (by omega) (by omega)) ?_
    rw [le_rounded_iff (by omega)]
    omega

theorem clockEighths_of_low {baud : Nat} (low : baud ≤ 732) (least : 184 ≤ baud) :
    rounded (8 * 3000000) (clockEighths 3000000 baud) = baud := by
  have positive : 0 < baud := by omega
  have small : 8 * 3000000 / baud < 0x1ffff := by
    rw [Nat.div_lt_iff_lt_mul positive]
    omega
  refine rounded_of_low low least ?_
  rw [clockEighths, if_neg (by omega), if_neg (by omega), if_neg (by omega),
    rounded_eq_div_add positive]
  split
  · omega
  · omega

theorem findsNearest_of_low {baud : Nat} (low : baud ≤ 732) (least : 184 ≤ baud) :
    FindsNearest 3000000 baud := by
  refine ⟨by omega, by omega, fun _ _ _ => ?_⟩
  rw [rounded_of_low low least (.inl rfl), rounded_of_low low least (.inr rfl)]
  omega

/-! ### The chips but the FT232AM -/

theorem isNearest_actualRate_iff {chip : FtdiChip} {baud : Nat} (other : chip ≠ .ft232Am)
    (positive : 0 < baud) :
    IsNearest (IsRate chip) baud (actualRate chip baud) ↔
      FindsNearest (baseClock chip baud) baud := by
  rw [actualRate, chosenEighths, if_neg other, baseClock]
  split
  next fast =>
    have above : 8 * (6 * 2000000) / baud < 0x1ffff := by
      rw [Nat.div_lt_iff_lt_mul positive]
      omega
    exact @isNearest_clockEighths_iff 2000000 baud _ (rates_of_hType fast.1) positive above
  next slow =>
    rcases Nat.lt_or_ge 183 baud with least | lowest
    · rcases Bool.eq_false_or_eq_true chip.isHType with hType | plain
      · have low : baud ≤ 732 := by
          by_contra high
          exact slow ⟨hType, by omega⟩
        rw [clockEighths_of_low low least]
        refine iff_of_true (fun rate member => ?_) (findsNearest_of_low low least)
        rw [Nat.dist_self]
        exact Nat.zero_le _
      · have above : 8 * (6 * 500000) / baud < 0x1ffff := by
          rw [Nat.div_lt_iff_lt_mul positive]
          omega
        exact @isNearest_clockEighths_iff 500000 baud _ (rates_of_plain plain) positive above
    · rw [clockEighths_of_lowest positive lowest]
      exact iff_of_true (isNearest_lowest lowest) (findsNearest_of_lowest positive lowest)

/-! ### The FT232AM -/

/-- The condition under which the FT232AM search finds the nearest rate. -/
structure AmFindsNearest (baud : Nat) : Prop where
  /-- Between the divisors 2 and 9/8, only 2 is tried. -/
  aboveHalf : 1500000 < baud → baud < 2666667 → baud ≤ 1750000
  /-- Further down, one of the two divisors tried is as near as those next to the quotient. -/
  belowHalf : 184 ≤ baud → baud ≤ 1500000 → ∃ increment ≤ 1,
    Nat.dist (rounded 24000000 (8 * (24000000 / baud / 8) +
        triedOffset (24000000 / baud % 8) increment)) baud ≤
          Nat.dist (rounded 24000000 (24000000 / baud)) baud ∧
      Nat.dist (rounded 24000000 (8 * (24000000 / baud / 8) +
        triedOffset (24000000 / baud % 8) increment)) baud ≤
          Nat.dist (rounded 24000000 (24000000 / baud + 1)) baud

theorem triedOffset_le : ∀ residue < 8, ∀ increment ≤ 1, triedOffset residue increment ≤ 10 := by
  decide

theorem triedEighths_small : ∀ quotient < 8, ∀ increment ≤ 1, triedEighths quotient increment = 8 := by
  decide

theorem triedEighths_sixteen : ∀ quotient < 16, 9 ≤ quotient → ∀ increment ≤ 1,
    triedEighths quotient increment = 16 := by
  decide

/-- The nearer candidate has a rate as near as a bound if one of the two has. -/
theorem dist_amEighths_le_iff {baud bound : Nat} :
    Nat.dist (rounded 24000000 (amEighths baud)) baud ≤ bound ↔ ∃ increment ≤ 1,
      Nat.dist (rounded 24000000 (triedEighths (24000000 / baud) increment)) baud ≤ bound := by
  rw [amEighths]
  split
  next nearer =>
    constructor
    · intro near
      exact ⟨1, by decide, near⟩
    · rintro ⟨increment, atMostOne, near⟩
      rcases Nat.le_one_iff_eq_zero_or_eq_one.mp atMostOne with rfl | rfl
      · exact (Nat.le_of_lt nearer).trans near
      · exact near
  next notNearer =>
    constructor
    · intro near
      exact ⟨0, by decide, near⟩
    · rintro ⟨increment, atMostOne, near⟩
      rcases Nat.le_one_iff_eq_zero_or_eq_one.mp atMostOne with rfl | rfl
      · exact near
      · exact (Nat.not_lt.mp notNearer).trans near

theorem amRates : Rates (6 * 500000) (IsRate .ft232Am) := rates_of_plain rfl

/-- The rates of the divisors 1, 1.5 and 2. -/
theorem amRates_special :
    (∀ rate, IsRate .ft232Am rate → rate ≤ 3000000) ∧
      Consecutive (IsRate .ft232Am) 2000000 3000000 ∧
      Consecutive (IsRate .ft232Am) 1500000 2000000 :=
  amRates.special

/-- From the divisor 9/8 up, the divisor is 1. -/
theorem amEighths_of_high {baud : Nat} (high : 2666667 ≤ baud) : amEighths baud = 8 := by
  have quotient : 24000000 / baud < 9 := (Nat.div_lt_iff_lt_mul (by omega)).mpr (by omega)
  rcases Nat.lt_or_ge (24000000 / baud) 8 with small | eight
  · rw [amEighths, triedEighths_small _ small 0 (by decide), triedEighths_small _ small 1 (by decide),
      if_neg (Nat.lt_irrefl _)]
  · have truncated : 24000000 / baud = 8 := by omega
    have two : rounded 24000000 (triedEighths 8 1) = 1500000 := by decide
    have one : rounded 24000000 (triedEighths 8 0) = 3000000 := by decide
    rw [amEighths, truncated, two, one, if_neg]
    · decide
    · unfold Nat.dist
      omega

/-- Between the divisors 2 and 9/8, the divisor is 2. -/
theorem amEighths_of_middle {baud : Nat} (low : 1500000 < baud) (high : baud < 2666667) :
    amEighths baud = 16 := by
  have least : 9 ≤ 24000000 / baud := (Nat.le_div_iff_mul_le (by omega)).mpr (by omega)
  have small : 24000000 / baud < 16 := (Nat.div_lt_iff_lt_mul (by omega)).mpr (by omega)
  rw [amEighths, triedEighths_sixteen _ small least 0 (by decide),
    triedEighths_sixteen _ small least 1 (by decide), if_neg (Nat.lt_irrefl _)]

theorem amEighths_of_lowest {baud : Nat} (positive : 0 < baud) (low : baud ≤ 183) :
    amEighths baud = 0x1fff8 := by
  have large : 0x1fff8 ≤ 24000000 / baud := (Nat.le_div_iff_mul_le positive).mpr (by omega)
  have clamped : ∀ increment ≤ 1, triedEighths (24000000 / baud) increment = 0x1fff8 := by
    intro increment atMostOne
    rw [triedEighths_of_ge (by omega) atMostOne]
    omega
  rw [amEighths, clamped 0 (by decide), clamped 1 (by decide), if_neg (Nat.lt_irrefl _)]

/-- **The search of the FT232AM** finds the nearest rate under the condition, and only then. -/
theorem isNearest_amEighths_iff {baud : Nat} (positive : 0 < baud) :
    IsNearest (IsRate .ft232Am) baud (rounded 24000000 (amEighths baud)) ↔ AmFindsNearest baud := by
  obtain ⟨greatest, upperPair, lowerPair⟩ := amRates_special
  rcases Nat.lt_or_ge 183 baud with least | lowest
  · rcases Nat.lt_or_ge 1500000 baud with fast | slow
    · rcases Nat.lt_or_ge baud 2666667 with middle | high
      · rw [amEighths_of_middle fast middle, show rounded 24000000 16 = 1500000 by decide]
        constructor
        · intro nearest
          have near := nearest 2000000 lowerPair.above_mem
          unfold Nat.dist at near
          exact ⟨by omega, by omega⟩
        · intro finds
          have half := finds.aboveHalf fast middle
          exact (lowerPair.isNearest_below_iff (by omega) (by omega)).mpr (by omega)
      · rw [amEighths_of_high high, show rounded 24000000 8 = 3000000 by decide]
        refine iff_of_true ?_ ⟨by omega, by omega⟩
        rcases Nat.lt_or_ge baud 3000000 with below | above
        · exact (upperPair.isNearest_above_iff (by omega) (by omega)).mpr (by omega)
        · exact isNearest_greatest greatest above
    · have some : 16 ≤ 24000000 / baud := (Nat.le_div_iff_mul_le positive).mpr (by omega)
      have most : 24000000 / baud < 130435 := (Nat.div_lt_iff_lt_mul positive).mpr (by omega)
      have pair := amRates.consecutive some (by omega)
      obtain ⟨low, high⟩ := @Rates.around 3000000 baud positive (Nat.lt_of_lt_of_le (by decide) some)
      have tried : ∀ increment ≤ 1, triedEighths (24000000 / baud) increment =
          8 * (24000000 / baud / 8) + triedOffset (24000000 / baud % 8) increment := by
        intro increment atMostOne
        have offset := triedOffset_le (24000000 / baud % 8) (Nat.mod_lt _ (by decide)) increment
          atMostOne
        rw [triedEighths_of_ge some atMostOne]
        omega
      rw [pair.isNearest_iff low high, ← le_min_iff, dist_amEighths_le_iff]
      constructor
      · rintro ⟨increment, atMostOne, near⟩
        rw [tried increment atMostOne, le_min_iff] at near
        exact ⟨by omega, fun _ _ => ⟨increment, atMostOne, near.2, near.1⟩⟩
      · intro finds
        obtain ⟨increment, atMostOne, toQuotient, toNext⟩ := finds.belowHalf least slow
        refine ⟨increment, atMostOne, ?_⟩
        rw [tried increment atMostOne, le_min_iff]
        exact ⟨toNext, toQuotient⟩
  · rw [amEighths_of_lowest positive lowest, show rounded 24000000 0x1fff8 = 183 by decide]
    exact iff_of_true (isNearest_lowest lowest) ⟨by omega, by omega⟩

/-! ### The conversion -/

/-- A conversion returns a rate that no other rate of the chip is closer than, so that `set_baud_rate`
rejects a request only when no rate of the chip is within 5 percent of it. -/
def PicksClosest (chip : FtdiChip) (baud : UInt32) (usbIndex : UInt16) : Prop :=
  (∃ divisor, convertBaudRate baud chip usbIndex = .ok (some divisor) ∧
      IsNearest (IsRate chip) baud.toNat divisor.actual.toNat) ∧
    ∀ actual, baudDivisor baud chip usbIndex = fail (.unsupportedBaudRate baud actual) →
      ∀ rate, IsRate chip rate → baud.toNat < 20 * Nat.dist rate baud.toNat

/-- The condition under which a conversion finds the closest rate. -/
def FindsClosest (chip : FtdiChip) (baud : Nat) : Prop :=
  if chip = .ft232Am then AmFindsNearest baud else FindsNearest (baseClock chip baud) baud

theorem isNearest_iff_findsClosest (chip : FtdiChip) {baud : Nat} (positive : 0 < baud) :
    IsNearest (IsRate chip) baud (actualRate chip baud) ↔ FindsClosest chip baud := by
  rw [FindsClosest]
  split
  next am =>
    rw [am, actualRate_ft232Am]
    exact isNearest_amEighths_iff positive
  next other => exact isNearest_actualRate_iff other positive

/-- **A conversion returns the closest rate** exactly under the condition. -/
theorem picksClosest_iff (chip : FtdiChip) (baud : UInt32) (usbIndex : UInt16)
    (positive : 1 ≤ baud.toNat) (small : baud.toNat < 2147483648) :
    PicksClosest chip baud usbIndex ↔ FindsClosest chip baud.toNat := by
  have signed : chip = .ft232Am → baud.toNat < 2147483648 := fun _ => small
  rw [← isNearest_iff_findsClosest chip positive]
  constructor
  · rintro ⟨⟨divisor, converts, nearest⟩, -⟩
    rw [convertBaudRate_actual positive signed converts] at nearest
    exact nearest
  · intro nearest
    have converts := convertBaudRate_eq usbIndex positive signed
    refine ⟨⟨_, converts, ?_⟩, fun actual rejects rate member => ?_⟩
    · rw [convertBaudRate_actual positive signed converts]
      exact nearest
    · rw [baudDivisor_eq usbIndex positive signed] at rejects
      split at rejects
      next far =>
        have farther := nearest rate member
        omega
      next near => exact absurd rejects (ok_ne_fail _ _)

/-- A request of 115200 baud on an FT232R. -/
theorem picksClosest_115200 : PicksClosest .ft232R 115200 0 :=
  (picksClosest_iff .ft232R 115200 0 (by decide) (by decide)).mpr
    ⟨by decide, by decide, fun _ _ _ => by decide⟩

/-- A request of 2900000 baud is given 2000000, although 3000000 is closer, and within 5 percent. -/
theorem not_picksClosest : ¬ ∀ (chip : FtdiChip) (baud : UInt32) (usbIndex : UInt16),
    1 ≤ baud.toNat → baud.toNat < 2147483648 → PicksClosest chip baud usbIndex := by
  intro always
  obtain ⟨⟨divisor, converts, nearest⟩, -⟩ := always .ft232Bm 2900000 0 (by decide) (by decide)
  have given : convertBaudRate 2900000 .ft232Bm 0 = .ok (some ⟨2000000, 1, 0⟩) := by decide +kernel
  rw [given, Except.ok.injEq, Option.some.injEq] at converts
  have whole : IsRate .ft232Bm 3000000 := ⟨3000000, by decide, 8, .inl rfl, by decide⟩
  have near := nearest 3000000 whole
  rw [← converts] at near
  exact absurd near (by decide)

end PioUsbHost.Ftdi
